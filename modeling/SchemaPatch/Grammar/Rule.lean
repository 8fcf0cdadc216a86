import SchemaPatch.Sql.Identifier
import SchemaPatch.Token.Basic

/-!
# Grammar rules

A rule reads something from the front of a statement's tokens and leaves the others, or says why
the statement is refused. The token that ends the statement is not among its tokens: where they run
out, the statement ends.
-/

namespace SchemaPatch

/-- Why a statement is refused. -/
inductive Fault.Cause where
  /-- The token is no token of any statement. -/
  | illegal
  /-- Something else has to stand here. -/
  | expected (what : String)
  /-- No statement begins like this; `lead` are the words before the token. -/
  | unknownStatement (lead : String)
  /-- There is no such type. -/
  | unknownType
  /-- The number is no integer of 64 bits. -/
  | invalidInteger
  /-- The number is no unsigned integer of 32 bits. -/
  | invalidModifier
  deriving DecidableEq, Repr

/-- A reason to refuse a statement, and where it shows. -/
structure Fault where
  /-- What is wrong. -/
  cause : Fault.Cause
  /-- The token where it shows; `none` stands for the end of the statement. -/
  found : Option Token
  deriving DecidableEq, Repr

/-- How a fault is worded, where `found` is the token it shows at. -/
def Fault.Cause.message (found : Token) : Fault.Cause → String
  | .illegal => "illegal token " ++ found.literal
  | .expected what => "expected " ++ what ++ ", found " ++ found.describe
  | .unknownStatement lead => "unknown statement " ++ lead ++ found.describe
  | .unknownType => "unknown data type " ++ found.literal
  | .invalidInteger => "invalid integer " ++ found.literal
  | .invalidModifier => "invalid type modifier " ++ found.literal

/-- A rule of the grammar. -/
abbrev Rule := StateT (List Token) (Except Fault)

namespace Rule

/-- The fault that something else than `what` is at the front of the tokens. An illegal token is
reported as such. -/
def unexpected (what : String) (ts : List Token) : Fault :=
  match ts with
  | t :: _ => if t.kind.isIllegal then ⟨.illegal, some t⟩ else ⟨.expected what, some t⟩
  | [] => ⟨.expected what, none⟩

/-- Refuses the statement because `what` is not at the front. -/
def refuse {α : Type} (what : String) : Rule α := fun ts => .error (unexpected what ts)

/-- Whether a token of the kind is at the front. -/
def check (kind : Token.Kind) : Rule Bool := fun ts => .ok (ts.head?.any (·.kind == kind), ts)

/-- Passes over a token of the kind if one is at the front, and says whether it did. -/
def accept (kind : Token.Kind) : Rule Bool
  | t :: ts => .ok (if t.kind = kind then (true, ts) else (false, t :: ts))
  | [] => .ok (false, [])

/-- Passes over the keyword if it is at the front, and says whether it did. -/
def acceptWord (k : Keyword) : Rule Bool := accept (.keyword k)

/-- Passes over a token of the kind, which has to be at the front. -/
def expect (kind : Token.Kind) : Rule Unit
  | t :: ts => if t.kind = kind then .ok ((), ts) else .error (unexpected kind.describe (t :: ts))
  | [] => .error (unexpected kind.describe [])

/-- Passes over the keyword, which has to be at the front. -/
def expectWord (k : Keyword) : Rule Unit := expect (.keyword k)

/-- Passes over the keywords, which have to be at the front in this order. -/
def expectWords : List Keyword → Rule Unit
  | [] => pure ()
  | k :: ks => do expectWord k; expectWords ks

/-- The name at the front. -/
def identifier : Rule Identifier
  | t :: ts =>
    if t.isIdentifier then .ok (Identifier.ofLiteral t.literal, ts)
    else .error (unexpected "identifier" (t :: ts))
  | [] => .error (unexpected "identifier" [])

/-- Whether the statement ends here. -/
def atEnd : Rule Bool := fun ts => .ok (ts.isEmpty, ts)

/-- One thing after another, with commas between them. Goes on behind a comma only if something was
read, which is so for every rule that reads a token. -/
def commaList {α : Type} (item : Rule α) : Rule (List α) := fun ts =>
  match item ts with
  | .error f => .error f
  | .ok (a, rest) =>
    match rest with
    | t :: rest' =>
      if t.kind = .comma ∧ rest'.length < ts.length then
        match commaList item rest' with
        | .error f => .error f
        | .ok (as, rest'') => .ok (a :: as, rest'')
      else .ok ([a], t :: rest')
    | [] => .ok ([a], [])
termination_by ts => ts.length

/-- One thing after another for as long as there are more. Goes on only if something was read, which
is so for every rule that reads a token. -/
def many {α : Type} (item : Rule (Option α)) : Rule (List α) := fun ts =>
  match item ts with
  | .error f => .error f
  | .ok (none, rest) => .ok ([], rest)
  | .ok (some a, rest) =>
    if rest.length < ts.length then
      match many item rest with
      | .error f => .error f
      | .ok (as, rest') => .ok (a :: as, rest')
    else .ok ([a], rest)
termination_by ts => ts.length

/-- Names between parentheses, with commas between them. -/
def identifierList : Rule (List Identifier) := do
  expect .leftParen
  let names ← commaList identifier
  expect .rightParen
  return names

end Rule

end SchemaPatch
