import SchemaPatch.Grammar.Alter

/-!
# Reading statements

A statement is recognised by its leading words. Statements of other kinds than the seven that bear
on a schema are passed over with a remark; any other beginning is refused.
-/

namespace SchemaPatch

/-- Something that is passed over when statements are read. -/
inductive Remark where
  /-- A command to the terminal client. -/
  | metaCommand (place : Token)
  /-- A statement of a kind that does not bear on a schema. -/
  | statement (place : Token) (words : String)
  /-- A constraint that takes no part in a comparison. -/
  | constraint (place : Token)
  /-- A setting of another parameter than the search path. -/
  | parameter (place : Token)
  deriving DecidableEq, Repr

/-- What the tokens of a statement are read as. -/
structure Reading where
  /-- What was passed over, in order. -/
  remarks : List Remark
  /-- The statement and the tokens behind it, nothing if the statement as a whole is passed over, or
  why it is refused. -/
  result : Except Fault (Option (Statement × List Token))

namespace Reading

/-- What a rule reads, with nothing passed over. -/
def ofRule (r : Rule Statement) (ts : List Token) : Reading :=
  match r ts with
  | .error f => ⟨[], .error f⟩
  | .ok x => ⟨[], .ok (some x)⟩

/-- A statement that is passed over with a remark. -/
def passed (r : Remark) : Reading := ⟨[r], .ok none⟩

/-- A statement that is refused. -/
def refused (cause : Fault.Cause) (found : Option Token) : Reading := ⟨[], .error ⟨cause, found⟩⟩

/-- The token at the front; `stop` is the one that ends the statement. -/
def front (stop : Token) (ts : List Token) : Token := ts.headD stop

/-- Whether a keyword behind `CREATE` names a kind of object that does not bear on a schema. -/
def isForeignObject : Keyword → Bool
  | .DATABASE | .EXTENSION | .FUNCTION | .VIEW | .OPERATOR | .TRIGGER | .ROLE => true
  | _ => false

/-- Whether a keyword begins a statement that does not bear on a schema. -/
def isForeignStatement : Keyword → Bool
  | .GRANT | .REVOKE | .SELECT | .COMMENT => true
  | _ => false

/-- What follows the token `CREATE`. -/
def create (lead : Token) (ts : List Token) : Reading :=
  match ts with
  | t :: rest =>
    match t.kind with
    | .keyword .SCHEMA => ofRule Rule.createSchema rest
    | .keyword .TABLE => ofRule Rule.createTable rest
    | .keyword .UNIQUE | .keyword .INDEX => ofRule Rule.createIndex ts
    | .keyword .SEQUENCE => ofRule Rule.createSequence rest
    | kind =>
      if kind.keyword?.any isForeignObject then
        passed (.statement lead ("CREATE " ++ Keyword.upper t.literal))
      else refused (.unknownStatement "CREATE ") (some t)
  | [] => refused (.unknownStatement "CREATE ") none

/-- What follows `ALTER SEQUENCE`. A change of owner is passed over. -/
def alterSequence (ts : List Token) : Reading :=
  match Rule.objectName ts with
  | .error f => ⟨[], .error f⟩
  | .ok (sequence, rest) =>
    match rest with
    | t :: _ =>
      if t.kind = .keyword .OWNER then passed (.statement t "ALTER SEQUENCE OWNER TO")
      else ofRule (Rule.ownedBy sequence) rest
    | [] => ofRule (Rule.ownedBy sequence) rest

/-- The actions on a table. If none of them is kept, the statement is passed over. -/
def alterActions (stop : Token) (only : Bool) (table : ObjectName) (ts : List Token) : Reading :=
  match Rule.actions ts with
  | (ignored, .error f) => ⟨ignored.map .constraint, .error f⟩
  | (ignored, .ok ([], rest)) =>
    ⟨ignored.map .constraint ++ [.statement (front stop rest) "ALTER TABLE ADD CONSTRAINT"],
      .ok none⟩
  | (ignored, .ok (kept, rest)) =>
    ⟨ignored.map .constraint, .ok (some (.alterTable ⟨only, table, kept⟩, rest))⟩

/-- What follows `ALTER TABLE`. A change of owner is passed over. -/
def alterTable (stop : Token) (ts : List Token) : Reading :=
  match Rule.alteredTable ts with
  | .error f => ⟨[], .error f⟩
  | .ok ((only, table), rest) =>
    match rest with
    | t :: _ =>
      if t.kind = .keyword .OWNER then passed (.statement t "ALTER TABLE OWNER TO")
      else alterActions stop only table rest
    | [] => alterActions stop only table rest

/-- What follows the token `ALTER`. -/
def alter (lead stop : Token) (ts : List Token) : Reading :=
  match ts with
  | t :: rest =>
    match t.kind with
    | .keyword .TABLE => alterTable stop rest
    | .keyword .SEQUENCE => alterSequence rest
    | _ => passed (.statement lead ("ALTER " ++ Keyword.upper t.literal))
  | [] => passed (.statement lead ("ALTER " ++ Keyword.upper stop.literal))

/-- The values of a search path, behind its name. -/
def searchPath : Rule Statement := do
  if ← Rule.accept .equal then
    let values ← Rule.commaList (Rule.expression .lowest)
    return .setSearchPath ⟨values⟩
  else if ← Rule.acceptWord .TO then
    let values ← Rule.commaList (Rule.expression .lowest)
    return .setSearchPath ⟨values⟩
  else
    Rule.refuse "= or TO"

/-- Whether a token names the search path, in upper, lower or mixed case. -/
def namesSearchPath (t : Token) : Bool :=
  t.isIdentifier && Keyword.upper (Identifier.ofLiteral t.literal).value == "SEARCH_PATH"

/-- What follows the token `SET`. Other parameters than the search path are passed over. -/
def setParameter (stop : Token) (ts : List Token) : Reading :=
  match ts with
  | t :: rest => if namesSearchPath t then ofRule searchPath rest else passed (.parameter t)
  | [] => passed (.parameter stop)

/-- Reads the tokens of a statement, which `stop` ends. A semicolon on its own is passed over without
a remark. -/
def ofTokens (ts : List Token) (stop : Token) : Reading :=
  match ts with
  | t :: rest =>
    match t.kind with
    | .keyword .CREATE => create t rest
    | .keyword .ALTER => alter t stop rest
    | .keyword .SET => setParameter stop rest
    | kind =>
      if kind.isIllegal then refused .illegal (some t)
      else if kind.keyword?.any isForeignStatement then
        passed (.statement t (Keyword.upper t.literal))
      else refused (.unknownStatement "") (some t)
  | [] =>
    if stop.kind = .semicolon then ⟨[], .ok none⟩ else refused (.unknownStatement "") none

end Reading

end SchemaPatch
