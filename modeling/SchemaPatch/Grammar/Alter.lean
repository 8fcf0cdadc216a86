import SchemaPatch.Grammar.Create

/-!
# Reading statements that alter

The rules for what follows the leading words of `ALTER SEQUENCE` and `ALTER TABLE`. A table can be
altered by constraints of kinds that take no part in a comparison; they are passed over one by one,
and the token each of them was recognised by is handed out beside the actions.
-/

namespace SchemaPatch.Rule

/-- What attaches the sequence to a column. -/
def ownedBy (sequence : ObjectName) : Rule Statement := do
  expectWords [.OWNED, .BY]
  let first ← identifier
  expect .dot
  let second ← identifier
  if ← accept .dot then
    let column ← identifier
    return .ownSequence ⟨sequence, ⟨some first, second⟩, column⟩
  else
    return .ownSequence ⟨sequence, ⟨none, first⟩, second⟩

/-- The table that is altered, and whether it alone is. -/
def alteredTable : Rule (Bool × ObjectName) := do
  let only ← acceptWord .ONLY
  let table ← objectName
  return (only, table)

/-! ### Actions -/

/-- An action as it is recognised. -/
inductive Action where
  /-- An action that takes part in a comparison. -/
  | kept (action : AlterAction)
  /-- A constraint of another kind, which begins with the token. -/
  | ignored (first : Token)
  deriving DecidableEq, Repr

/-- The name of a constraint, if it is given. -/
def constraintName : Rule (Option Identifier) := do
  if ← acceptWord .CONSTRAINT then
    let name ← identifier
    return some name
  else
    return none

/-- Whether a keyword begins a constraint that takes no part in a comparison. -/
def beginsIgnored (k : Keyword) : Bool := k == .FOREIGN || k == .CHECK || k == .EXCLUDE

/-- A constraint behind its name. One that takes no part in a comparison is left standing. -/
def constraintBody (name : Option Identifier) : Rule Action := fun ts =>
  match ts with
  | t :: rest =>
    if t.keyword?.any beginsIgnored then .ok (.ignored t, ts)
    else if t.kind = .keyword .UNIQUE then
      match identifierList rest with
      | .error f => .error f
      | .ok (columns, rest') => .ok (.kept (.addConstraint ⟨name, .unique, columns⟩), rest')
    else if t.kind = .keyword .PRIMARY then
      match (do expectWord .KEY; identifierList : Rule (List Identifier)) rest with
      | .error f => .error f
      | .ok (columns, rest') => .ok (.kept (.addConstraint ⟨name, .primaryKey, columns⟩), rest')
    else .error (unexpected "UNIQUE or PRIMARY KEY" ts)
  | [] => .error (unexpected "UNIQUE or PRIMARY KEY" ts)

/-- A new default value of a column. -/
def columnDefault : Rule Action := do
  let _ ← acceptWord .COLUMN
  let column ← identifier
  expectWords [.SET, .DEFAULT]
  let value ← expression .lowest
  return .kept (.setDefault column value)

/-- An action on a table. -/
def action : Rule Action := do
  if ← acceptWord .ADD then
    let name ← constraintName
    constraintBody name
  else if ← acceptWord .ALTER then
    columnDefault
  else
    refuse "ADD or ALTER"

/-- Passes over an ignored action inside `depth` parentheses, up to a comma outside all of them or
the end of the statement. A closing parenthesis too many is passed over. -/
def passIgnored (depth : Nat) : List Token → Except Fault (List Token)
  | [] => .ok []
  | t :: ts =>
    match t.kind with
    | .unterminated => .error ⟨.illegal, some t⟩
    | .leftParen => passIgnored (depth + 1) ts
    | .rightParen => passIgnored (depth - 1) ts
    | .comma => if depth = 0 then .ok (t :: ts) else passIgnored depth ts
    | _ => passIgnored depth ts

/-- What is read of a list of actions: where ignored ones begin, and the actions kept with the tokens
behind them, or why the statement is refused. -/
abbrev Actions := List Token × Except Fault (List AlterAction × List Token)

/-- One action of a list. -/
def oneAction (ts : List Token) : Actions :=
  match action ts with
  | .error f => ([], .error f)
  | .ok (.kept a, rest) => ([], .ok ([a], rest))
  | .ok (.ignored first, rest) =>
    match passIgnored 0 rest with
    | .error f => ([first], .error f)
    | .ok rest' => ([first], .ok ([], rest'))

/-- Actions with commas between them. -/
def actions (ts : List Token) : Actions :=
  match oneAction ts with
  | (ignored, .error f) => (ignored, .error f)
  | (ignored, .ok (kept, rest)) =>
    match rest with
    | t :: rest' =>
      if t.kind = .comma ∧ rest'.length < ts.length then
        match actions rest' with
        | (ignored', .error f) => (ignored ++ ignored', .error f)
        | (ignored', .ok (kept', rest'')) =>
          (ignored ++ ignored', .ok (kept ++ kept', rest''))
      else (ignored, .ok (kept, t :: rest'))
    | [] => (ignored, .ok (kept, []))
termination_by ts.length

end SchemaPatch.Rule
