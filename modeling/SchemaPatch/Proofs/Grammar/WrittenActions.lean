import SchemaPatch.Grammar.Alter
import SchemaPatch.Proofs.Grammar.Written

/-!
# Actions on tables in tokens

The tokens in which an action on a table is written, also one that takes no part in a comparison
(`Rule.Action.Written`). Of the latter only the beginning is given; what follows may be anything with
balanced parentheses and with commas only between them (`Balanced`). The tokens of a whole statement
are put together from those of its actions (`Alteration.tokens`).
-/

namespace SchemaPatch

variable {ts rest : List Token}

/-! ### Names -/

/-- A token is a name. -/
def Token.Names (t : Token) (name : Identifier) : Prop :=
  t.isIdentifier ∧ Identifier.ofLiteral t.literal = name

theorem Token.Names.kind_ne {t : Token} {name : Identifier} (h : t.Names name) {k : Keyword}
    (hk : k.isReserved) : t.kind ≠ .keyword k := by
  intro ht
  have hid := h.1
  rw [Token.isIdentifier, ht] at hid
  simp [hk] at hid

/-- The tokens up to `rest` are names with a comma between them. -/
inductive NamesListed : List Identifier → List Token → List Token → Prop where
  /-- The only name. -/
  | one {t : Token} {name : Identifier} {rest : List Token} : t.Names name →
      NamesListed [name] (t :: rest) rest
  /-- A name in front of others. -/
  | cons {t u : Token} {name : Identifier} {names : List Identifier} {ts rest : List Token} :
      t.Names name → u.kind = .comma → NamesListed names ts rest →
        NamesListed (name :: names) (t :: u :: ts) rest

theorem NamesListed.append {names : List Identifier} (h : NamesListed names ts rest)
    (more : List Token) : NamesListed names (ts ++ more) (rest ++ more) := by
  induction h with
  | one ht => exact .one ht
  | cons ht hu _ ih => exact .cons ht hu ih

/-- The tokens up to `rest` are the name of a table, with or without that of its schema. -/
inductive ObjectName.Written : ObjectName → List Token → List Token → Prop where
  /-- A name alone. -/
  | plain {t : Token} {name : Identifier} {rest : List Token} : t.Names name →
      Written ⟨none, name⟩ (t :: rest) rest
  /-- A name behind that of its schema. -/
  | qualified {t u v : Token} {schema name : Identifier} {rest : List Token} : t.Names schema →
      u.kind = .dot → v.Names name → Written ⟨some schema, name⟩ (t :: u :: v :: rest) rest

theorem ObjectName.Written.append {name : ObjectName} (h : name.Written ts rest)
    (more : List Token) : name.Written (ts ++ more) (rest ++ more) := by
  cases h with
  | plain ht => exact .plain ht
  | qualified ht hu hv => exact .qualified ht hu hv

theorem ObjectName.Written.begins {name : ObjectName} (h : name.Written ts rest) :
    ∃ t mid first, ts = t :: mid ∧ t.Names first := by
  cases h with
  | plain ht | qualified ht => exact ⟨_, _, _, rfl, ht⟩

/-- The tokens up to `rest` give a constraint its name, if it has one. -/
inductive ConstraintNamed : Option Identifier → List Token → List Token → Prop where
  /-- It has no name. -/
  | none {rest : List Token} : ConstraintNamed none rest rest
  /-- It has a name. -/
  | some {t u : Token} {name : Identifier} {rest : List Token} : t.kind = .keyword .CONSTRAINT →
      u.Names name → ConstraintNamed (some name) (t :: u :: rest) rest

theorem ConstraintNamed.append {name : Option Identifier} (h : ConstraintNamed name ts rest)
    (more : List Token) : ConstraintNamed name (ts ++ more) (rest ++ more) := by
  cases h with
  | none => exact .none
  | some ht hu => exact .some ht hu

/-! ### Balanced parentheses -/

/-- A kind of token that neither opens nor closes a parenthesis, is no comma and not unterminated. -/
def Token.Kind.isFiller (kind : Token.Kind) : Bool :=
  kind != .leftParen && kind != .rightParen && kind != .comma && kind != .unterminated

/-- Tokens with balanced parentheses. There may be commas between parentheses, and outside all of
them if these tokens are `inside` others. -/
inductive Balanced : Bool → List Token → Prop where
  /-- No tokens. -/
  | nil {inside : Bool} : Balanced inside []
  /-- Any other token comes first. -/
  | filler {inside : Bool} {t : Token} {ts : List Token} : t.kind.isFiller → Balanced inside ts →
      Balanced inside (t :: ts)
  /-- A comma comes first. -/
  | comma {t : Token} {ts : List Token} : t.kind = .comma → Balanced true ts →
      Balanced true (t :: ts)
  /-- Parentheses come first, with balanced tokens between them. -/
  | parens {inside : Bool} {t u : Token} {between ts : List Token} : t.kind = .leftParen →
      Balanced true between → u.kind = .rightParen → Balanced inside ts →
        Balanced inside (t :: (between ++ u :: ts))

/-! ### Actions -/

namespace Rule.Action

/-- The tokens up to `rest` write an action. -/
inductive Written : Action → List Token → List Token → Prop where
  /-- Columns are made a key. -/
  | addConstraint {constraint : TableConstraint} {t u v : Token} {ts mid cols rest : List Token} :
      t.kind = .keyword .ADD → ConstraintNamed constraint.name ts mid →
        Forms constraint.kind.symbols mid (u :: cols) → u.kind = .leftParen →
          NamesListed constraint.columns cols (v :: rest) → v.kind = .rightParen →
            Written (.kept (.addConstraint constraint)) (t :: ts) rest
  /-- The default value of a column is set. -/
  | setDefault {column : Identifier} {value : Expression} {worded : Bool} {t u : Token}
      {ts behind mid rest : List Token} :
      t.kind = .keyword .ALTER → Forms (if worded then [.word .COLUMN] else []) ts (u :: behind) →
        u.Names column → Forms [.word .SET, .word .DEFAULT] behind mid → value.Nested →
          value.Written mid rest → Written (.kept (.setDefault column value)) (t :: ts) rest
  /-- A constraint of another kind is added. -/
  | ignored {name : Option Identifier} {t first : Token} {ts soup rest : List Token} :
      t.kind = .keyword .ADD → ConstraintNamed name ts (first :: (soup ++ rest)) →
        first.keyword?.any beginsIgnored → Balanced false soup →
          Written (.ignored first) (t :: ts) rest

variable {a : Action}

/-- A comma and whatever is behind it do not change an action that is written before them. -/
theorem Written.append {more : List Token} (h : a.Written ts rest) (hmore : Begins .comma more) :
    a.Written (ts ++ more) (rest ++ more) := by
  cases h with
  | addConstraint ht hname hkind hu hcols hv =>
    exact .addConstraint ht (hname.append more) (hkind.append more) hu (hcols.append more) hv
  | setDefault ht hcolumn hu hwords hn hvalue =>
    exact .setDefault ht (hcolumn.append more) hu (hwords.append more) hn
      (hn.written_append hvalue hmore)
  | ignored ht hname hfirst hsoup =>
    have hmoved := hname.append more
    rw [List.cons_append, List.append_assoc] at hmoved
    exact .ignored ht hmoved hfirst hsoup

/-- An action begins with one of two keywords. -/
theorem Written.begins (h : a.Written ts rest) :
    ∃ t mid, ts = t :: mid ∧ (t.kind = .keyword .ADD ∨ t.kind = .keyword .ALTER) := by
  cases h with
  | addConstraint ht | ignored ht => exact ⟨_, _, rfl, .inl ht⟩
  | setDefault ht => exact ⟨_, _, rfl, .inr ht⟩

/-- The action, if it is kept. -/
def kept? : Action → Option AlterAction
  | kept a => some a
  | ignored _ => none

/-- The token that an ignored action is recognised by. -/
def ignored? : Action → Option Token
  | kept _ => none
  | ignored first => some first

end Rule.Action

/-! ### Statements -/

/-- An action as it stands in a statement: its tokens, and the comma by which it would be set apart
from an action in front of it. -/
structure Segment where
  /-- The comma. -/
  comma : Token
  /-- It is one. -/
  isComma : comma.kind = .comma
  /-- The action. -/
  action : Rule.Action
  /-- The tokens of the action. -/
  tokens : List Token
  /-- They write it. -/
  written : action.Written tokens []

/-- The tokens of actions, without the comma of the first one. -/
def Segment.listed : List Segment → List Token
  | [] => []
  | x :: xs => x.tokens ++ xs.flatMap fun y => y.comma :: y.tokens

/-- A statement that alters a table, as it stands in a document. -/
structure Alteration where
  /-- Whether the table alone is altered. -/
  only : Bool
  /-- The table. -/
  table : ObjectName
  /-- The tokens up to the name of the table. -/
  words : List Token
  /-- The tokens of the name of the table. -/
  name : List Token
  /-- The actions. -/
  segments : List Segment
  /-- The statement begins with the keywords. -/
  worded : Forms ([.word .ALTER, .word .TABLE] ++ if only then [.word .ONLY] else []) words []
  /-- The name is that of the table. -/
  named : table.Written name []
  /-- There is an action. -/
  ne_nil : segments ≠ []

namespace Alteration

/-- The tokens of a statement. -/
def tokens (a : Alteration) : List Token := a.words ++ (a.name ++ Segment.listed a.segments)

/-- The actions of a statement that are kept. -/
def kept (a : Alteration) : List AlterAction := a.segments.filterMap (·.action.kept?)

/-- A statement without its ignored actions and their commas, if it keeps an action. -/
def withoutIgnored (a : Alteration) (h : a.kept ≠ []) : Alteration :=
  { a with
    segments := a.segments.filter (·.action.kept?.isSome)
    ne_nil := by
      intro hnil
      refine h (List.filterMap_eq_nil_iff.2 fun x hx => ?_)
      have hnone := List.filter_eq_nil_iff.1 hnil x hx
      simpa using hnone }

@[simp] theorem kept_withoutIgnored (a : Alteration) (h : a.kept ≠ []) :
    (a.withoutIgnored h).kept = a.kept := by
  simp only [kept, withoutIgnored, List.filterMap_filter]
  refine List.filterMap_congr fun x _ => ?_
  cases x.action.kept? <;> rfl

end Alteration

end SchemaPatch
