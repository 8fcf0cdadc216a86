import SchemaPatch.Sql.Expression
import SchemaPatch.Sql.ObjectName

/-!
# Statements

The statements that bear on a schema, and their one canonical text: names quoted, types in lower
case, one space between words, one column a line. A statement ends with a semicolon.
-/

namespace SchemaPatch

/-- A condition in the definition of a column. -/
inductive ColumnConstraint where
  /-- The column has no null values. -/
  | notNull
  /-- The column may have null values, which goes without saying: it has no text. -/
  | null
  /-- The value of the column where none is given. -/
  | default (value : Expression)
  deriving DecidableEq, Repr

namespace ColumnConstraint

/-- The text of a condition. -/
def sql : ColumnConstraint → String
  | notNull => "NOT NULL"
  | null => ""
  | default value => "DEFAULT " ++ value.sql

/-- The default value that a condition gives. -/
def default? : ColumnConstraint → Option Expression
  | default value => some value
  | _ => none

end ColumnConstraint

/-- The definition of a column. -/
structure ColumnDefinition where
  /-- Its name. -/
  name : Identifier
  /-- Its type. -/
  type : DataType
  /-- Its conditions, in the order they are written. -/
  constraints : List ColumnConstraint
  deriving DecidableEq, Repr

namespace ColumnDefinition

/-- Whether null values are ruled out. -/
def isNotNull (c : ColumnDefinition) : Bool := c.constraints.contains .notNull

/-- The default value; of several, the last one. -/
def default? (c : ColumnDefinition) : Option Expression :=
  (c.constraints.filterMap ColumnConstraint.default?).getLast?

/-- The text of the conditions, each behind a space. -/
def constraintsSql : List ColumnConstraint → String
  | [] => ""
  | .null :: rest => constraintsSql rest
  | c :: rest => " " ++ c.sql ++ constraintsSql rest

/-- The text of a definition. -/
def sql (c : ColumnDefinition) : String :=
  c.name.sql ++ " " ++ c.type.sql ++ constraintsSql c.constraints

end ColumnDefinition

/-- The creation of a table. -/
structure CreateTable where
  /-- The name of the table. -/
  table : ObjectName
  /-- Its columns, in order. -/
  columns : List ColumnDefinition
  deriving DecidableEq, Repr

namespace CreateTable

/-- The text of columns, one a line. -/
def columnsSql : List ColumnDefinition → String
  | [] => ""
  | [c] => "    " ++ c.sql ++ "\n"
  | c :: d :: rest => "    " ++ c.sql ++ ",\n" ++ columnsSql (d :: rest)

/-- The text of the statement. -/
def sql (s : CreateTable) : String :=
  "CREATE TABLE " ++ s.table.sql ++ " (\n" ++ columnsSql s.columns ++ ");"

end CreateTable

/-- What an index sorts by. -/
structure IndexTarget where
  /-- A column, a function call or an expression between parentheses. -/
  key : Expression
  /-- Whether the greatest comes first. -/
  descending : Bool
  deriving DecidableEq, Repr

/-- The text of an index target. -/
def IndexTarget.sql (t : IndexTarget) : String :=
  t.key.sql ++ (if t.descending then " DESC" else "")

/-- The creation of an index. -/
structure CreateIndex where
  /-- Whether its keys are unique. -/
  unique : Bool
  /-- Whether it is built beside other work. -/
  concurrently : Bool
  /-- Whether it is left alone if it is already there. -/
  ifNotExists : Bool
  /-- Its name; the database finds one if there is none. -/
  name : Option Identifier
  /-- The table it is an index of. -/
  table : ObjectName
  /-- The access method. -/
  method : Option Identifier
  /-- What it sorts by. -/
  targets : List IndexTarget
  deriving DecidableEq, Repr

/-- The text of the statement. -/
def CreateIndex.sql (s : CreateIndex) : String :=
  "CREATE " ++ (if s.unique then "UNIQUE " else "") ++ "INDEX " ++
    (if s.concurrently then "CONCURRENTLY " else "") ++
    (if s.ifNotExists then "IF NOT EXISTS " else "") ++
    (match s.name with
      | some name => name.sql ++ " "
      | none => "") ++
    "ON " ++ s.table.sql ++
    (match s.method with
      | some method => " USING " ++ method.sql
      | none => "") ++
    " (" ++ listed (s.targets.map IndexTarget.sql) ++ ");"

/-- The creation of a sequence, with its options. -/
structure CreateSequence where
  /-- Its name. -/
  name : ObjectName
  /-- The type of its numbers. -/
  type : Option DataType
  /-- The number it starts with. -/
  start : Option Int64
  /-- The step from one number to the next. -/
  increment : Option Int64
  /-- Whether it is said to have no least number. -/
  noMinvalue : Bool
  /-- Whether it is said to have no greatest number. -/
  noMaxvalue : Bool
  /-- How many numbers are fetched at a time. -/
  cache : Option Int64
  deriving DecidableEq, Repr

namespace CreateSequence

/-- A sequence without options. -/
def plain (name : ObjectName) : CreateSequence := ⟨name, none, none, none, false, false, none⟩

/-- The text of an option on a line of its own, if it is given. -/
def optionSql (words : String) : Option String → String
  | some value => "\n    " ++ words ++ value
  | none => ""

/-- The text of a parameter of a sequence. -/
def integerSql (n : Int64) : String := Decimal.ofInt n.toInt

/-- The text of the statement. -/
def sql (s : CreateSequence) : String :=
  "CREATE SEQUENCE " ++ s.name.sql ++
    optionSql "AS " (s.type.map DataType.sql) ++
    optionSql "START WITH " (s.start.map integerSql) ++
    optionSql "INCREMENT BY " (s.increment.map integerSql) ++
    (if s.noMinvalue then "\n    NO MINVALUE" else "") ++
    (if s.noMaxvalue then "\n    NO MAXVALUE" else "") ++
    optionSql "CACHE " (s.cache.map integerSql) ++ ";"

end CreateSequence

/-- The attachment of a sequence to a column. -/
structure OwnSequence where
  /-- The sequence. -/
  sequence : ObjectName
  /-- The table of the column. -/
  table : ObjectName
  /-- The column. -/
  column : Identifier
  deriving DecidableEq, Repr

/-- The text of the statement. -/
def OwnSequence.sql (s : OwnSequence) : String :=
  "ALTER SEQUENCE " ++ s.sequence.sql ++ " OWNED BY " ++ s.table.sql ++ "." ++ s.column.sql ++ ";"

/-- The kinds of table constraint that take part in a comparison. -/
inductive ConstraintKind where
  /-- No two rows agree on the columns. -/
  | unique
  /-- The columns identify a row. -/
  | primaryKey
  deriving DecidableEq, Repr

/-- The spelling of a kind of constraint. -/
def ConstraintKind.sql : ConstraintKind → String
  | unique => "UNIQUE"
  | primaryKey => "PRIMARY KEY"

/-- A constraint on a table. -/
structure TableConstraint where
  /-- Its name, if it is given. -/
  name : Option Identifier
  /-- Its kind. -/
  kind : ConstraintKind
  /-- Its columns. -/
  columns : List Identifier
  deriving DecidableEq, Repr

/-- The text of a constraint. -/
def TableConstraint.sql (c : TableConstraint) : String :=
  (match c.name with
    | some name => "CONSTRAINT " ++ name.sql ++ " "
    | none => "") ++
    c.kind.sql ++ " (" ++ listed (c.columns.map Identifier.sql) ++ ")"

/-- A change to a table. -/
inductive AlterAction where
  /-- A constraint is added. -/
  | addConstraint (constraint : TableConstraint)
  /-- A column gets a default value. -/
  | setDefault (column : Identifier) (value : Expression)
  deriving DecidableEq, Repr

/-- The text of a change. -/
def AlterAction.sql : AlterAction → String
  | addConstraint constraint => "ADD " ++ constraint.sql
  | setDefault column value => "ALTER COLUMN " ++ column.sql ++ " SET DEFAULT " ++ value.sql

/-- Changes to a table. -/
structure AlterTable where
  /-- Whether tables that inherit from it are left alone. -/
  only : Bool
  /-- The table. -/
  table : ObjectName
  /-- The changes, in order. -/
  actions : List AlterAction
  deriving DecidableEq, Repr

/-- The text of the statement. -/
def AlterTable.sql (s : AlterTable) : String :=
  "ALTER TABLE " ++ (if s.only then "ONLY " else "") ++ s.table.sql ++ " " ++
    listed (s.actions.map AlterAction.sql) ++ ";"

/-- A setting of the search path. -/
structure SetSearchPath where
  /-- The schemas to search, in order. -/
  values : List Expression
  deriving DecidableEq, Repr

namespace SetSearchPath

/-- The schema that a value of the path names: an identifier, or a string that is not empty. -/
def schema? : Expression → Option Identifier
  | .identifier name => some name
  | .string literal =>
    match Quoted.unquote? '\'' literal.toList with
    | some (c :: cs) => some ⟨String.ofList (c :: cs)⟩
    | _ => none
  | _ => none

/-- The schema that the path begins with. -/
def firstSchema? (s : SetSearchPath) : Option Identifier := s.values.head?.bind schema?

/-- The text of the statement. -/
def sql (s : SetSearchPath) : String :=
  "SET search_path = " ++ listed (s.values.map Expression.sql) ++ ";"

end SetSearchPath

/-- A statement that bears on a schema. -/
inductive Statement where
  /-- A schema is created. -/
  | createSchema (name : Identifier)
  /-- A table is created. -/
  | createTable (s : CreateTable)
  /-- An index is created. -/
  | createIndex (s : CreateIndex)
  /-- A sequence is created. -/
  | createSequence (s : CreateSequence)
  /-- A sequence is attached to a column. -/
  | ownSequence (s : OwnSequence)
  /-- A table is changed. -/
  | alterTable (s : AlterTable)
  /-- The search path is set. -/
  | setSearchPath (s : SetSearchPath)
  deriving DecidableEq, Repr

/-- The text of a statement. -/
def Statement.sql : Statement → String
  | createSchema name => "CREATE SCHEMA " ++ name.sql ++ ";"
  | createTable s => s.sql
  | createIndex s => s.sql
  | createSequence s => s.sql
  | ownSequence s => s.sql
  | alterTable s => s.sql
  | setSearchPath s => s.sql

/-- The text of statements, each with a line feed behind it. -/
def Statement.sqlAll : List Statement → String
  | [] => ""
  | s :: rest => s.sql ++ "\n" ++ sqlAll rest

end SchemaPatch
