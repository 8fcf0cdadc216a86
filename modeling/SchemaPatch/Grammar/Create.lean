import SchemaPatch.Grammar.Expression
import SchemaPatch.Sql.Statement

/-!
# Reading statements that create

The rules for what follows the leading words of `CREATE SCHEMA`, `CREATE TABLE` and
`CREATE SEQUENCE`, and for what follows `CREATE` where an index is created.
-/

namespace SchemaPatch.Rule

/-- The name of a table or sequence, with its schema or without. -/
def objectName : Rule ObjectName := do
  let first ← identifier
  if ← accept .dot then
    let second ← identifier
    return ⟨some first, second⟩
  else
    return ⟨none, first⟩

/-- What creates a schema. -/
def createSchema : Rule Statement := do
  let name ← identifier
  return .createSchema name

/-! ### Tables -/

/-- A condition in the definition of a column, if there is one. -/
def columnConstraint : Rule (Option ColumnConstraint) := do
  if ← acceptWord .NOT then
    expectWord .NULL
    return some .notNull
  else if ← acceptWord .NULL then
    return some .null
  else if ← acceptWord .DEFAULT then
    let value ← expression .lowest
    return some (.default value)
  else
    return none

/-- The definition of a column. -/
def columnDefinition : Rule ColumnDefinition := do
  let name ← identifier
  let type ← dataType
  let constraints ← many columnConstraint
  return ⟨name, type, constraints⟩

/-- Column definitions between parentheses; there may be none. -/
def columnList : Rule (List ColumnDefinition) := do
  expect .leftParen
  if ← accept .rightParen then
    return []
  else
    let columns ← commaList columnDefinition
    expect .rightParen
    return columns

/-- What creates a table. -/
def createTable : Rule Statement := do
  let table ← objectName
  let columns ← columnList
  return .createTable ⟨table, columns⟩

/-! ### Indexes -/

/-- Whether the condition `IF NOT EXISTS` is given. -/
def ifNotExists : Rule Bool := do
  if ← acceptWord .IF then
    expectWords [.NOT, .EXISTS]
    return true
  else
    return false

/-- The name of an index, which may be missing before `ON`. -/
def indexName : Rule (Option Identifier) := do
  if ← check (.keyword .ON) then
    return none
  else
    let name ← identifier
    return some name

/-- The access method of an index, if it is given. -/
def indexMethod : Rule (Option Identifier) := do
  if ← acceptWord .USING then
    let method ← identifier
    return some method
  else
    return none

/-- A column, a function call, or an expression between parentheses. -/
def indexKey : Rule Expression
  | t :: ts =>
    if t.kind = .leftParen then operand (t :: ts)
    else if t.isIdentifier then
      let name := Expression.identifier (Identifier.ofLiteral t.literal)
      match ts with
      | u :: us =>
        if u.kind = .leftParen then
          match arguments us with
          | .error f => .error f
          | .ok (args, rest) => .ok (.call name args, rest)
        else .ok (name, u :: us)
      | [] => .ok (name, [])
    else .error (unexpected "index column or expression" (t :: ts))
  | [] => .error (unexpected "index column or expression" [])

/-- Whether the greatest keys come first. -/
def direction : Rule Bool := do
  if ← acceptWord .DESC then
    return true
  else
    let _ ← acceptWord .ASC
    return false

/-- What an index sorts by. -/
def indexTarget : Rule IndexTarget := do
  let key ← indexKey
  let descending ← direction
  return ⟨key, descending⟩

/-- What creates an index. -/
def createIndex : Rule Statement := do
  let unique ← acceptWord .UNIQUE
  expectWord .INDEX
  let concurrently ← acceptWord .CONCURRENTLY
  let conditional ← ifNotExists
  let name ← indexName
  expectWord .ON
  let table ← objectName
  let method ← indexMethod
  expect .leftParen
  let targets ← commaList indexTarget
  expect .rightParen
  return .createIndex ⟨unique, concurrently, conditional, name, table, method, targets⟩

/-! ### Sequences -/

/-- An option of a sequence. -/
inductive SequenceOption where
  /-- The type of its numbers. -/
  | type (t : DataType)
  /-- The number it starts with. -/
  | start (n : Int64)
  /-- The step from one number to the next. -/
  | increment (n : Int64)
  /-- It has no least number. -/
  | noMinvalue
  /-- It has no greatest number. -/
  | noMaxvalue
  /-- How many numbers are fetched at a time. -/
  | cache (n : Int64)
  deriving DecidableEq, Repr

/-- A sequence with one more option, which takes the place of an earlier one of its sort. -/
def SequenceOption.addTo (s : CreateSequence) : SequenceOption → CreateSequence
  | type t => { s with type := some t }
  | start n => { s with start := some n }
  | increment n => { s with increment := some n }
  | noMinvalue => { s with noMinvalue := true }
  | noMaxvalue => { s with noMaxvalue := true }
  | cache n => { s with cache := some n }

/-- What follows `NO` in an option. -/
def noLimit : Rule SequenceOption := do
  if ← acceptWord .MINVALUE then
    return .noMinvalue
  else if ← acceptWord .MAXVALUE then
    return .noMaxvalue
  else
    refuse "MINVALUE or MAXVALUE"

/-- An option of a sequence, unless the statement ends. -/
def sequenceOption : Rule (Option SequenceOption) := do
  if ← atEnd then
    return none
  else if ← acceptWord .AS then
    let type ← dataType
    return some (.type type)
  else if ← acceptWord .START then
    let _ ← acceptWord .WITH
    let n ← integer
    return some (.start n)
  else if ← acceptWord .INCREMENT then
    let _ ← acceptWord .BY
    let n ← integer
    return some (.increment n)
  else if ← acceptWord .NO then
    let limit ← noLimit
    return some limit
  else if ← acceptWord .CACHE then
    let n ← integer
    return some (.cache n)
  else
    refuse "sequence option"

/-- What creates a sequence. -/
def createSequence : Rule Statement := do
  let name ← objectName
  let options ← many sequenceOption
  return .createSequence (options.foldl SequenceOption.addTo (.plain name))

end SchemaPatch.Rule
