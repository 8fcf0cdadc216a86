/-!
# Keywords

The words of PostgreSQL's data definition language that the reader knows. A word is recognised in
any case. A reserved keyword never stands for a name; any other one may, so a column can be called
`date`.
-/

namespace SchemaPatch

/-- The keywords, by their upper-case spelling. -/
inductive Keyword where
  -- Leading words of statements
  | ALTER | COMMENT | CREATE | GRANT | REVOKE | SELECT | SET
  -- Kinds of object
  | COLUMN | DATABASE | EXTENSION | FUNCTION | INDEX | OPERATOR | ROLE | SCHEMA | SEQUENCE
  | TABLE | TRIGGER | VIEW
  -- Words of clauses
  | ADD | AS | ASC | BY | CACHE | CHECK | CONCURRENTLY | CONSTRAINT | DEFAULT | DESC | EXCLUDE
  | EXISTS | FOREIGN | IF | INCREMENT | KEY | MAXVALUE | MINVALUE | NO | ON | ONLY | OWNED
  | OWNER | PRIMARY | START | TO | UNIQUE | USING | VARYING | WITH | WITHOUT | TIME | ZONE
  -- Predicates and literals
  | FALSE | IS | NOT | NULL | TRUE
  -- Data types
  | BIGINT | BIGSERIAL | BOOLEAN | BYTEA | CHARACTER | DATE | INTEGER | JSONB | NUMERIC | SERIAL
  | SMALLINT | TEXT | TIMESTAMP | TSVECTOR | UUID
  deriving DecidableEq, Repr

namespace Keyword

/-- The upper-case spelling of a keyword. -/
def word : Keyword → String
  | ALTER => "ALTER"
  | COMMENT => "COMMENT"
  | CREATE => "CREATE"
  | GRANT => "GRANT"
  | REVOKE => "REVOKE"
  | SELECT => "SELECT"
  | SET => "SET"
  | COLUMN => "COLUMN"
  | DATABASE => "DATABASE"
  | EXTENSION => "EXTENSION"
  | FUNCTION => "FUNCTION"
  | INDEX => "INDEX"
  | OPERATOR => "OPERATOR"
  | ROLE => "ROLE"
  | SCHEMA => "SCHEMA"
  | SEQUENCE => "SEQUENCE"
  | TABLE => "TABLE"
  | TRIGGER => "TRIGGER"
  | VIEW => "VIEW"
  | ADD => "ADD"
  | AS => "AS"
  | ASC => "ASC"
  | BY => "BY"
  | CACHE => "CACHE"
  | CHECK => "CHECK"
  | CONCURRENTLY => "CONCURRENTLY"
  | CONSTRAINT => "CONSTRAINT"
  | DEFAULT => "DEFAULT"
  | DESC => "DESC"
  | EXCLUDE => "EXCLUDE"
  | EXISTS => "EXISTS"
  | FOREIGN => "FOREIGN"
  | IF => "IF"
  | INCREMENT => "INCREMENT"
  | KEY => "KEY"
  | MAXVALUE => "MAXVALUE"
  | MINVALUE => "MINVALUE"
  | NO => "NO"
  | ON => "ON"
  | ONLY => "ONLY"
  | OWNED => "OWNED"
  | OWNER => "OWNER"
  | PRIMARY => "PRIMARY"
  | START => "START"
  | TO => "TO"
  | UNIQUE => "UNIQUE"
  | USING => "USING"
  | VARYING => "VARYING"
  | WITH => "WITH"
  | WITHOUT => "WITHOUT"
  | TIME => "TIME"
  | ZONE => "ZONE"
  | FALSE => "FALSE"
  | IS => "IS"
  | NOT => "NOT"
  | NULL => "NULL"
  | TRUE => "TRUE"
  | BIGINT => "BIGINT"
  | BIGSERIAL => "BIGSERIAL"
  | BOOLEAN => "BOOLEAN"
  | BYTEA => "BYTEA"
  | CHARACTER => "CHARACTER"
  | DATE => "DATE"
  | INTEGER => "INTEGER"
  | JSONB => "JSONB"
  | NUMERIC => "NUMERIC"
  | SERIAL => "SERIAL"
  | SMALLINT => "SMALLINT"
  | TEXT => "TEXT"
  | TIMESTAMP => "TIMESTAMP"
  | TSVECTOR => "TSVECTOR"
  | UUID => "UUID"

/-- Every keyword. -/
def all : List Keyword :=
  [ALTER, COMMENT, CREATE, GRANT, REVOKE, SELECT, SET, COLUMN, DATABASE, EXTENSION, FUNCTION,
   INDEX, OPERATOR, ROLE, SCHEMA, SEQUENCE, TABLE, TRIGGER, VIEW, ADD, AS, ASC, BY, CACHE, CHECK,
   CONCURRENTLY, CONSTRAINT, DEFAULT, DESC, EXCLUDE, EXISTS, FOREIGN, IF, INCREMENT, KEY,
   MAXVALUE, MINVALUE, NO, ON, ONLY, OWNED, OWNER, PRIMARY, START, TO, UNIQUE, USING, VARYING,
   WITH, WITHOUT, TIME, ZONE, FALSE, IS, NOT, NULL, TRUE, BIGINT, BIGSERIAL, BOOLEAN, BYTEA,
   CHARACTER, DATE, INTEGER, JSONB, NUMERIC, SERIAL, SMALLINT, TEXT, TIMESTAMP, TSVECTOR, UUID]

/-- A text with its ASCII letters in upper case. -/
def upper (s : String) : String :=
  String.ofList (s.toList.map Char.toUpper)

/-- The keyword that a word spells in upper, lower or mixed case. -/
def ofWord? (s : String) : Option Keyword :=
  all.find? fun k => k.word == upper s

/-- Whether a keyword can never stand for a name. -/
def isReserved : Keyword → Bool
  | AS | ASC | CHECK | COLUMN | CONCURRENTLY | CONSTRAINT | CREATE | DEFAULT | DESC | FALSE
  | FOREIGN | GRANT | IS | NOT | NULL | ON | ONLY | PRIMARY | SELECT | TABLE | TO | TRUE | UNIQUE
  | USING | WITH => true
  | _ => false

end Keyword

end SchemaPatch
