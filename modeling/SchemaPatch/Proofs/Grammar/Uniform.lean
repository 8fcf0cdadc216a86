import Mathlib.Data.List.Forall2
import SchemaPatch.Grammar.Expression
import SchemaPatch.Proofs.Token.Symbol

/-!
# Rules see symbols

A rule of the grammar looks at the symbols that tokens are, and at nothing else of them. So if
tokens are related one by one to other tokens of the same symbols, a rule gives the same for both,
or refuses both for the same cause, and the tokens that it leaves and that it shows are related
again: it is `Uniform`. Relations that keep the symbols are all that is asked for, which makes
every property of tokens that is to be followed through a rule one of them.
-/

namespace SchemaPatch

/-- The relation holds only between tokens that are the same symbol. -/
def KeepsSymbols (R : Token → Token → Prop) : Prop := ∀ ⦃t u⦄, R t u → t.symbol = u.symbol

section

variable {R : Token → Token → Prop} {t u : Token}

theorem KeepsSymbols.kind (hR : KeepsSymbols R) (h : R t u) : t.kind = u.kind :=
  congrArg Symbol.kind (hR h)

theorem KeepsSymbols.literal (hR : KeepsSymbols R) (h : R t u) : t.literal = u.literal :=
  congrArg Symbol.literal (hR h)

theorem KeepsSymbols.isIdentifier (hR : KeepsSymbols R) (h : R t u) :
    t.isIdentifier = u.isIdentifier := by
  rw [Token.isIdentifier, Token.isIdentifier, hR.kind h]

theorem KeepsSymbols.keyword? (hR : KeepsSymbols R) (h : R t u) : t.keyword? = u.keyword? := by
  rw [Token.keyword?, Token.keyword?, hR.kind h]

end

/-- Faults of the same cause that show at related tokens, or both at the end. -/
inductive Fault.Alike (R : Token → Token → Prop) : Fault → Fault → Prop where
  /-- Both show at the end. -/
  | atEnd (cause : Fault.Cause) : Alike R ⟨cause, none⟩ ⟨cause, none⟩
  /-- They show at related tokens. -/
  | atToken (cause : Fault.Cause) {t u : Token} (h : R t u) : Alike R ⟨cause, some t⟩ ⟨cause, some u⟩

namespace Rule

variable {α β : Type} {R : Token → Token → Prop} {P : α → α → Prop} {Q : β → β → Prop}
  {ts us : List Token}

/-- What is given is related, or both are refused for the same cause. -/
inductive Alike (R : Token → Token → Prop) (P : α → α → Prop) :
    Except Fault α → Except Fault α → Prop where
  /-- Both give something. -/
  | ok {a b : α} (h : P a b) : Alike R P (.ok a) (.ok b)
  /-- Both are refused. -/
  | error {f g : Fault} (h : f.Alike R g) : Alike R P (.error f) (.error g)

/-- What is read is related, and so are the tokens that are left. -/
inductive Leaves (R : Token → Token → Prop) (P : α → α → Prop) :
    α × List Token → α × List Token → Prop where
  /-- What is read, and the tokens that are left. -/
  | intro {a b : α} {ts us : List Token} (h : P a b) (hrest : List.Forall₂ R ts us) :
    Leaves R P (a, ts) (b, us)

/-- On related tokens the rule does the same. -/
def Uniform (R : Token → Token → Prop) (P : α → α → Prop) (r : Rule α) : Prop :=
  ∀ ⦃ts us⦄, List.Forall₂ R ts us → Alike R (Leaves R P) (r ts) (r us)

theorem unexpected_alike (hR : KeepsSymbols R) (what : String) (h : List.Forall₂ R ts us) :
    (unexpected what ts).Alike R (unexpected what us) := by
  cases h with
  | nil => exact .atEnd _
  | cons ht _ =>
    rw [unexpected, unexpected, hR.kind ht]
    split
    · exact .atToken _ ht
    · exact .atToken _ ht

/-! ### How rules are put together -/

namespace Uniform

theorem pure {a : α} (h : P a a) : Uniform R P (pure a) := fun _ _ hts => .ok (.intro h hts)

theorem bind {r : Rule α} {f : α → Rule β} (hr : Uniform R Eq r) (hf : ∀ a, Uniform R Q (f a)) :
    Uniform R Q (r >>= f) := by
  intro ts us h
  show Alike R (Leaves R Q) (Except.bind (r ts) fun p => f p.1 p.2)
    (Except.bind (r us) fun p => f p.1 p.2)
  match r ts, r us, hr h with
  | _, _, .error hf => exact .error hf
  | _, _, .ok (.intro rfl hrest) => exact hf _ hrest

theorem ite {c : Prop} [Decidable c] {r r' : Rule α} (h : Uniform R P r) (h' : Uniform R P r') :
    Uniform R P (if c then r else r') := by
  split
  · exact h
  · exact h'

variable (hR : KeepsSymbols R)
include hR

theorem refuse (what : String) : Uniform R P (refuse what) :=
  fun _ _ h => .error (unexpected_alike hR what h)

theorem check (kind : Token.Kind) : Uniform R Eq (check kind) := by
  intro ts us h
  refine .ok (.intro ?_ h)
  cases h with
  | nil => rfl
  | cons ht _ => simp [hR.kind ht]

theorem accept (kind : Token.Kind) : Uniform R Eq (accept kind) := by
  intro ts us h
  cases h with
  | nil => exact .ok (.intro rfl .nil)
  | cons ht hrest =>
    rw [Rule.accept, Rule.accept, hR.kind ht]
    split
    · exact .ok (.intro rfl hrest)
    · exact .ok (.intro rfl (.cons ht hrest))

theorem acceptWord (k : Keyword) : Uniform R Eq (acceptWord k) := accept hR _

theorem expect (kind : Token.Kind) : Uniform R Eq (expect kind) := by
  intro ts us h
  cases h with
  | nil => exact .error (.atEnd _)
  | cons ht hrest =>
    rw [Rule.expect, Rule.expect, hR.kind ht]
    split
    · exact .ok (.intro rfl hrest)
    · exact .error (unexpected_alike hR _ (.cons ht hrest))

theorem expectWord (k : Keyword) : Uniform R Eq (expectWord k) := expect hR _

theorem expectWords (ks : List Keyword) : Uniform R Eq (expectWords ks) := by
  induction ks with
  | nil => exact .pure rfl
  | cons k ks ih => exact (expectWord hR k).bind fun _ => ih

theorem identifier : Uniform R Eq identifier := by
  intro ts us h
  cases h with
  | nil => exact .error (.atEnd _)
  | cons ht hrest =>
    rw [Rule.identifier, Rule.identifier, hR.isIdentifier ht, hR.literal ht]
    split
    · exact .ok (.intro rfl hrest)
    · exact .error (unexpected_alike hR _ (.cons ht hrest))

omit hR in
theorem atEnd : Uniform R Eq atEnd := by
  intro ts us h
  refine .ok (.intro ?_ h)
  cases h <;> rfl

theorem commaList {item : Rule α} (hi : Uniform R Eq item) : Uniform R Eq (commaList item) := by
  intro ts
  induction hn : ts.length using Nat.strongRecOn generalizing ts with
  | _ n ih =>
    subst hn
    intro us h
    rw [Rule.commaList, Rule.commaList]
    match item ts, item us, hi h with
    | _, _, .error hf => exact .error hf
    | _, _, .ok (.intro rfl .nil) => exact .ok (.intro rfl .nil)
    | _, _, .ok (.intro rfl (@List.Forall₂.cons _ _ _ _ _ rest rest' ht hrest)) =>
      dsimp only
      rw [hR.kind ht, ← hrest.length_eq, ← h.length_eq]
      split
      · next hcomma =>
        match Rule.commaList item rest, Rule.commaList item rest', ih _ hcomma.2 rfl hrest with
        | _, _, .error hf => exact .error hf
        | _, _, .ok (.intro rfl hrest'') => exact .ok (.intro rfl hrest'')
      · exact .ok (.intro rfl (.cons ht hrest))

omit hR in
theorem many {item : Rule (Option α)} (hi : Uniform R Eq item) : Uniform R Eq (many item) := by
  intro ts
  induction hn : ts.length using Nat.strongRecOn generalizing ts with
  | _ n ih =>
    subst hn
    intro us h
    rw [Rule.many, Rule.many]
    match item ts, item us, hi h with
    | _, _, .error hf => exact .error hf
    | .ok (none, _), _, .ok (.intro rfl hrest) => exact .ok (.intro rfl hrest)
    | .ok (some _, rest), .ok (_, rest'), .ok (.intro rfl hrest) =>
      dsimp only
      rw [← hrest.length_eq, ← h.length_eq]
      split
      · next hlt =>
        match Rule.many item rest, Rule.many item rest', ih _ hlt rfl hrest with
        | _, _, .error hf => exact .error hf
        | _, _, .ok (.intro rfl hrest'') => exact .ok (.intro rfl hrest'')
      · exact .ok (.intro rfl hrest)

theorem identifierList : Uniform R Eq identifierList :=
  (expect hR _).bind fun _ => (commaList hR (identifier hR)).bind fun _ => (expect hR _).bind fun _ =>
    .pure rfl

/-! ### Numbers and types -/

theorem bounded (what : String) (cause : Fault.Cause) (greatest : Nat) :
    Uniform R Eq (bounded what cause greatest) := by
  intro ts us h
  cases h with
  | nil => exact .error (.atEnd _)
  | cons ht hrest =>
    rw [Rule.bounded, Rule.bounded, hR.kind ht, hR.literal ht]
    split
    · split
      · split
        · exact .ok (.intro rfl hrest)
        · exact .error (.atToken _ ht)
      · exact .error (.atToken _ ht)
    · exact .error (unexpected_alike hR _ (.cons ht hrest))

theorem integer : Uniform R Eq integer :=
  (accept hR _).bind fun _ => (bounded hR ..).bind fun _ => .pure rfl

theorem modifier : Uniform R Eq modifier := (bounded hR ..).bind fun _ => .pure rfl

theorem characterType : Uniform R Eq characterType :=
  (acceptWord hR _).bind fun _ => (accept hR _).bind fun _ =>
    .ite ((modifier hR).bind fun _ => (expect hR _).bind fun _ => .pure rfl) (.pure rfl)

theorem numericType : Uniform R Eq numericType :=
  (accept hR _).bind fun _ => .ite
    ((modifier hR).bind fun _ => (accept hR _).bind fun _ => .ite
      ((modifier hR).bind fun _ => (expect hR _).bind fun _ => .pure rfl)
      ((expect hR _).bind fun _ => .pure rfl))
    (.pure rfl)

theorem timestampType : Uniform R Eq timestampType :=
  (acceptWord hR _).bind fun _ => .ite ((expectWords hR _).bind fun _ => .pure rfl)
    ((acceptWord hR _).bind fun _ => .ite ((expectWords hR _).bind fun _ => .pure rfl) (.pure rfl))

theorem dataType : Uniform R Eq dataType := by
  intro ts us h
  cases h with
  | nil => exact .error (.atEnd _)
  | cons ht hrest =>
    have hunexpected := unexpected_alike hR "data type" (.cons ht hrest)
    rw [Rule.dataType, Rule.dataType, hR.kind ht, hR.literal ht]
    split
    · exact characterType hR hrest
    · exact numericType hR hrest
    · exact timestampType hR hrest
    · split
      · exact .ok (.intro rfl hrest)
      · exact .error hunexpected
    · split
      · exact .ok (.intro rfl hrest)
      · exact .error (.atToken _ ht)
    · exact .error hunexpected

end Uniform

/-! ### Expressions -/

theorem head?_keyword?_eq (hR : KeepsSymbols R) (h : List.Forall₂ R ts us) :
    ts.head?.bind Token.keyword? = us.head?.bind Token.keyword? := by
  cases h with
  | nil => rfl
  | cons ht _ => exact hR.keyword? ht

mutual

theorem expression_alike (hR : KeepsSymbols R) (floor : Precedence) {ts us : List Token}
    (h : List.Forall₂ R ts us) :
    Alike R (Leaves R Eq) (expression floor ts) (expression floor us) := by
  rw [expression, expression]
  match operand ts, operand us, operand_alike hR h with
  | _, _, .error hf => exact .error hf
  | .ok (left, rest), .ok (_, rest'), .ok (.intro rfl hrest) =>
    dsimp only
    rw [← hrest.length_eq, ← h.length_eq]
    split
    · exact operators_alike hR floor left hrest
    · exact .ok (.intro rfl hrest)
termination_by 6 * ts.length + 2

theorem operand_alike (hR : KeepsSymbols R) {ts us : List Token} (h : List.Forall₂ R ts us) :
    Alike R (Leaves R Eq) (operand ts) (operand us) := by
  cases h with
  | nil =>
    rw [operand]
    exact .error (.atEnd _)
  | @cons t u rest rest' ht hrest =>
    rw [operand, operand, hR.kind ht, hR.literal ht, hR.isIdentifier ht]
    split
    · exact .ok (.intro rfl hrest)
    · exact .ok (.intro rfl hrest)
    · exact .ok (.intro rfl hrest)
    · exact .ok (.intro rfl hrest)
    · exact .ok (.intro rfl hrest)
    · match expression .lowest rest, expression .lowest rest', expression_alike hR .lowest hrest with
      | _, _, .error hf => exact .error hf
      | .ok (_, mid), .ok (_, mid'), .ok (.intro rfl hmid) =>
        dsimp only
        match expect .rightParen mid, expect .rightParen mid', Uniform.expect hR .rightParen hmid with
        | _, _, .error hf => exact .error hf
        | _, _, .ok (.intro rfl hlast) => exact .ok (.intro rfl hlast)
    · split
      · match expression .sign rest, expression .sign rest', expression_alike hR .sign hrest with
        | _, _, .error hf => exact .error hf
        | _, _, .ok (.intro rfl hmid) => exact .ok (.intro rfl hmid)
      · split
        · exact .ok (.intro rfl hrest)
        · exact .error (unexpected_alike hR _ (.cons ht hrest))
termination_by 6 * ts.length + 1

theorem operators_alike (hR : KeepsSymbols R) (floor : Precedence) (left : Expression)
    {ts us : List Token} (h : List.Forall₂ R ts us) :
    Alike R (Leaves R Eq) (operators floor left ts) (operators floor left us) := by
  cases h with
  | nil =>
    rw [operators]
    exact .ok (.intro rfl .nil)
  | @cons t u rest rest' ht hrest =>
    rw [operators, operators, hR.kind ht]
    split
    · exact .ok (.intro rfl (.cons ht hrest))
    · next p hp =>
      split
      · exact .ok (.intro rfl (.cons ht hrest))
      · match extend left p u.kind rest, extend left p u.kind rest',
          extend_alike hR left p u.kind hrest with
        | _, _, .error hf => exact .error hf
        | .ok (left', mid), .ok (_, mid'), .ok (.intro rfl hmid) =>
          dsimp only
          rw [List.length_cons, List.length_cons, ← hmid.length_eq, ← hrest.length_eq]
          split
          · exact operators_alike hR floor left' hmid
          · exact .ok (.intro rfl hmid)
termination_by 6 * ts.length

theorem extend_alike (hR : KeepsSymbols R) (left : Expression) (p : Precedence) (kind : Token.Kind)
    {rest rest' : List Token} (h : List.Forall₂ R rest rest') :
    Alike R (Leaves R Eq) (extend left p kind rest) (extend left p kind rest') := by
  unfold extend
  split
  · match arguments rest, arguments rest', arguments_alike hR h with
    | _, _, .error hf => exact .error hf
    | _, _, .ok (.intro rfl hmid) => exact .ok (.intro rfl hmid)
  · cases h with
    | nil => exact .error (.atEnd _)
    | @cons t u behind behind' ht hbehind =>
      dsimp only
      rw [hR.kind ht]
      split
      · match expression p behind, expression p behind', expression_alike hR p hbehind with
        | _, _, .error hf => exact .error hf
        | _, _, .ok (.intro rfl hmid) => exact .ok (.intro rfl hmid)
      · match expression p (t :: behind), expression p (u :: behind'),
          expression_alike hR p (.cons ht hbehind) with
        | _, _, .error hf => exact .error hf
        | _, _, .ok (.intro rfl hmid) => exact .ok (.intro rfl hmid)
  · rw [head?_keyword?_eq hR h]
    split
    · match dataType rest, dataType rest', Uniform.dataType hR h with
      | _, _, .error hf => exact .error hf
      | _, _, .ok (.intro rfl hmid) => exact .ok (.intro rfl hmid)
    · match expression p rest, expression p rest', expression_alike hR p h with
      | _, _, .error hf => exact .error hf
      | _, _, .ok (.intro rfl hmid) => exact .ok (.intro rfl hmid)
  · split
    · match expression p rest, expression p rest', expression_alike hR p h with
      | _, _, .error hf => exact .error hf
      | _, _, .ok (.intro rfl hmid) => exact .ok (.intro rfl hmid)
    · exact .error (unexpected_alike hR _ h)
termination_by 6 * rest.length + 5

theorem arguments_alike (hR : KeepsSymbols R) {ts us : List Token} (h : List.Forall₂ R ts us) :
    Alike R (Leaves R Eq) (arguments ts) (arguments us) := by
  cases h with
  | nil =>
    rw [arguments]
    exact .error (.atEnd _)
  | cons ht hrest =>
    rw [arguments, arguments, hR.kind ht]
    split
    · exact .ok (.intro rfl hrest)
    · exact argumentList_alike hR (.cons ht hrest)
termination_by 6 * ts.length + 4

theorem argumentList_alike (hR : KeepsSymbols R) {ts us : List Token} (h : List.Forall₂ R ts us) :
    Alike R (Leaves R Eq) (argumentList ts) (argumentList us) := by
  rw [argumentList, argumentList]
  match expression .lowest ts, expression .lowest us, expression_alike hR .lowest h with
  | _, _, .error hf => exact .error hf
  | _, _, .ok (.intro rfl .nil) => exact .error (.atEnd _)
  | _, _, .ok (.intro rfl (@List.Forall₂.cons _ _ _ t u rest rest' ht hrest)) =>
    dsimp only
    rw [hR.kind ht, ← hrest.length_eq, ← h.length_eq]
    split
    · next hcomma =>
      match argumentList rest, argumentList rest', argumentList_alike hR hrest with
      | _, _, .error hf => exact .error hf
      | _, _, .ok (.intro rfl hlast) => exact .ok (.intro rfl hlast)
    · match expect .rightParen (t :: rest), expect .rightParen (u :: rest'),
        Uniform.expect hR .rightParen (.cons ht hrest) with
      | _, _, .error hf => exact .error hf
      | _, _, .ok (.intro rfl hlast) => exact .ok (.intro rfl hlast)
termination_by 6 * ts.length + 3

end

end Rule

end SchemaPatch
