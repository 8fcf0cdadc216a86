import SchemaPatch.Grammar.Rule
import SchemaPatch.Sql.DataType

/-!
# Reading numbers and data types

A built-in type is named by a keyword, or by a few names between double quotes. Three of the types
take modifiers.
-/

namespace SchemaPatch.Rule

/-- A number without a point that is at most `greatest`, as it stands at the front. `what` is asked
for where there is no number, and `cause` is given where it is another number. -/
def bounded (what : String) (cause : Fault.Cause) (greatest : Nat) : Rule Nat
  | t :: ts =>
    if t.kind = .number then
      match Decimal.toNat? t.literal with
      | some n => if n ≤ greatest then .ok (n, ts) else .error ⟨cause, some t⟩
      | none => .error ⟨cause, some t⟩
    else .error (unexpected what (t :: ts))
  | [] => .error (unexpected what [])

/-- An integer of 64 bits, behind a minus sign or not. The number is bounded before the sign is
applied, so the least integer of all is not read. -/
def integer : Rule Int64 := do
  let negative ← accept .minus
  let n ← bounded "integer" .invalidInteger 0x7fffffffffffffff
  return Int64.ofInt (if negative then -(n : Int) else n)

/-- A modifier of a type, such as its length. -/
def modifier : Rule UInt32 := do
  let n ← bounded "number" .invalidModifier 0xffffffff
  return UInt32.ofNat n

/-- The type that a keyword names if it takes no modifiers. -/
def simpleType? : Keyword → Option DataType
  | .SMALLINT => some .smallint
  | .INTEGER => some .integer
  | .BIGINT => some .bigint
  | .SERIAL => some .serial
  | .BIGSERIAL => some .bigserial
  | .TEXT => some .text
  | .BOOLEAN => some .boolean
  | .BYTEA => some .bytea
  | .JSONB => some .jsonb
  | .TSVECTOR => some .tsvector
  | .UUID => some .uuid
  | .DATE => some .date
  | _ => none

/-- Whether a keyword begins a type. -/
def beginsType (k : Keyword) : Bool :=
  (simpleType? k).isSome || k == .CHARACTER || k == .NUMERIC || k == .TIMESTAMP

/-- The type that a name between double quotes stands for. -/
def quotedType? (literal : String) : Option DataType :=
  if literal = "\"date\"" then some .date
  else if literal = "\"text\"" then some .text
  else if literal = "\"jsonb\"" then some .jsonb
  else if literal = "\"bytea\"" then some .bytea
  else if literal = "\"tsvector\"" then some .tsvector
  else if literal = "\"uuid\"" then some .uuid
  else if literal = "\"integer\"" then some .integer
  else if literal = "\"bigint\"" then some .bigint
  else if literal = "\"smallint\"" then some .smallint
  else if literal = "\"boolean\"" then some .boolean
  else if literal = "\"numeric\"" then some (.numeric none none)
  else none

/-- What follows `character`. -/
def characterType : Rule DataType := do
  let varying ← acceptWord .VARYING
  if ← accept .leftParen then
    let length ← modifier
    expect .rightParen
    return .character varying (some length)
  else
    return .character varying none

/-- What follows `numeric`. -/
def numericType : Rule DataType := do
  if ← accept .leftParen then
    let precision ← modifier
    if ← accept .comma then
      let scale ← modifier
      expect .rightParen
      return .numeric (some precision) (some scale)
    else
      expect .rightParen
      return .numeric (some precision) none
  else
    return .numeric none none

/-- What follows `timestamp`. -/
def timestampType : Rule DataType := do
  if ← acceptWord .WITH then
    expectWords [.TIME, .ZONE]
    return .timestamp true
  else if ← acceptWord .WITHOUT then
    expectWords [.TIME, .ZONE]
    return .timestamp false
  else
    return .timestamp false

/-- A type. -/
def dataType : Rule DataType
  | t :: ts =>
    match t.kind with
    | .keyword .CHARACTER => characterType ts
    | .keyword .NUMERIC => numericType ts
    | .keyword .TIMESTAMP => timestampType ts
    | .keyword k =>
      match simpleType? k with
      | some type => .ok (type, ts)
      | none => .error (unexpected "data type" (t :: ts))
    | .identifier =>
      match quotedType? t.literal with
      | some type => .ok (type, ts)
      | none => .error ⟨.unknownType, some t⟩
    | _ => .error (unexpected "data type" (t :: ts))
  | [] => .error (unexpected "data type" [])

end SchemaPatch.Rule
