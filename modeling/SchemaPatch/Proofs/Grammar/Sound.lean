import SchemaPatch.Grammar.Rule
import SchemaPatch.Proofs.Token.Symbol

/-!
# Sound rules

What every rule of the grammar is to do when it succeeds: it takes some of the tokens from the
front, none of them unterminated, and gives something with a property that follows from properties
of the tokens. `Sound` says so, and is kept by the ways in which rules are put together.
-/

namespace SchemaPatch

/-- From `ts` one gets to `rest` by passing over tokens that are not unterminated. -/
def Passes (ts rest : List Token) : Prop :=
  ∃ used, ts = used ++ rest ∧ ∀ t ∈ used, t.kind ≠ .unterminated

namespace Passes

theorem refl (ts : List Token) : Passes ts ts := ⟨[], rfl, by simp⟩

theorem trans {ts mid rest : List Token} (h₁ : Passes ts mid) (h₂ : Passes mid rest) :
    Passes ts rest := by
  obtain ⟨u, rfl, hu⟩ := h₁
  obtain ⟨v, rfl, hv⟩ := h₂
  refine ⟨u ++ v, (List.append_assoc ..).symm, fun t ht => ?_⟩
  rcases List.mem_append.1 ht with h | h
  · exact hu t h
  · exact hv t h

theorem cons {t : Token} {ts rest : List Token} (ht : t.kind ≠ .unterminated)
    (h : Passes ts rest) : Passes (t :: ts) rest := by
  obtain ⟨u, rfl, hu⟩ := h
  exact ⟨t :: u, rfl, by simpa [ht] using hu⟩

/-- Passes over one token. -/
theorem one {t : Token} {ts : List Token} (ht : t.kind ≠ .unterminated) : Passes (t :: ts) ts :=
  cons ht (refl ts)

theorem length_le {ts rest : List Token} (h : Passes ts rest) : rest.length ≤ ts.length := by
  obtain ⟨u, rfl, -⟩ := h
  simp

theorem mem {ts rest : List Token} (h : Passes ts rest) {t : Token} (ht : t ∈ rest) : t ∈ ts := by
  obtain ⟨u, rfl, -⟩ := h
  exact List.mem_append_right u ht

/-- An unterminated token at the end stays there. -/
theorem getLast? {ts rest : List Token} (h : Passes ts rest) {t : Token}
    (ht : ts.getLast? = some t) (hk : t.kind = .unterminated) : rest.getLast? = some t := by
  obtain ⟨u, rfl, hu⟩ := h
  cases rest with
  | nil =>
    rw [List.append_nil] at ht
    exact absurd hk (hu t (List.mem_of_getLast? ht))
  | cons r rs => simpa [List.getLast?_append] using ht

end Passes

/-- Every token is a symbol with a property. -/
def Tokens (S : Symbol → Prop) (ts : List Token) : Prop := ∀ t ∈ ts, S t.symbol

theorem Tokens.passes {S : Symbol → Prop} {ts rest : List Token} (h : Tokens S ts)
    (hp : Passes ts rest) : Tokens S rest := fun t ht => h t (hp.mem ht)

theorem Tokens.head {S : Symbol → Prop} {t : Token} {ts : List Token} (h : Tokens S (t :: ts)) :
    S t.symbol := h t (List.mem_cons_self ..)

theorem Tokens.tail {S : Symbol → Prop} {t : Token} {ts : List Token} (h : Tokens S (t :: ts)) :
    Tokens S ts := fun u hu => h u (List.mem_cons_of_mem t hu)

namespace Rule

variable {α β : Type} {S : Symbol → Prop}

/-- When a rule reads tokens with the property `S`, it gives something with the property `P` and
passes over what it took. -/
def Sound (S : Symbol → Prop) (r : Rule α) (P : α → Prop) : Prop :=
  ∀ ⦃ts a rest⦄, r ts = .ok (a, rest) → Tokens S ts → P a ∧ Passes ts rest

theorem bind_eq_ok {r : Rule α} {f : α → Rule β} {ts rest : List Token} {b : β} :
    (r >>= f) ts = .ok (b, rest) ↔ ∃ a mid, r ts = .ok (a, mid) ∧ f a mid = .ok (b, rest) := by
  show Except.bind (r ts) (fun p => f p.1 p.2) = _ ↔ _
  cases r ts with
  | error e => simp [Except.bind]
  | ok p => simp [Except.bind, Prod.ext_iff, and_assoc]

theorem pure_eq_ok {a b : α} {ts rest : List Token} :
    (pure a : Rule α) ts = .ok (b, rest) ↔ a = b ∧ ts = rest := by
  show Except.ok (a, ts) = _ ↔ _
  simp

theorem accept_eq_ok {kind : Token.Kind} {ts rest : List Token} {b : Bool} :
    accept kind ts = .ok (b, rest) ↔
      (b = true ∧ ∃ t, ts = t :: rest ∧ t.kind = kind) ∨ (b = false ∧ ts = rest ∧ ¬ Begins kind ts) := by
  cases ts with
  | nil => simp [accept, eq_comm]
  | cons t ts => by_cases h : t.kind = kind <;> grind [accept, begins_cons]

theorem expect_eq_ok {kind : Token.Kind} {ts rest : List Token} {u : Unit} :
    expect kind ts = .ok (u, rest) ↔ ∃ t, ts = t :: rest ∧ t.kind = kind := by
  cases ts with
  | nil => simp [expect]
  | cons t ts => by_cases h : t.kind = kind <;> grind [expect]

/-! ### How rules are put together -/

theorem Sound.pure {P : α → Prop} {a : α} (h : P a) : Sound S (pure a) P := by
  intro ts b rest hr _
  obtain ⟨rfl, rfl⟩ := pure_eq_ok.1 hr
  exact ⟨h, .refl ts⟩

theorem Sound.bind {P : α → Prop} {Q : β → Prop} {r : Rule α} {f : α → Rule β} (hr : Sound S r P)
    (hf : ∀ a, P a → Sound S (f a) Q) : Sound S (r >>= f) Q := by
  intro ts b rest h hts
  obtain ⟨a, mid, h₁, h₂⟩ := bind_eq_ok.1 h
  obtain ⟨ha, hp⟩ := hr h₁ hts
  obtain ⟨hb, hp'⟩ := hf a ha h₂ (hts.passes hp)
  exact ⟨hb, hp.trans hp'⟩

theorem Sound.ite {P : α → Prop} {c : Prop} [Decidable c] {r r' : Rule α} (h : Sound S r P)
    (h' : Sound S r' P) : Sound S (if c then r else r') P := by
  split
  · exact h
  · exact h'

theorem Sound.refuse {P : α → Prop} (what : String) : Sound S (refuse what) P :=
  fun _ _ _ h => by cases h

theorem Sound.accept {kind : Token.Kind} (hk : kind ≠ .unterminated) :
    Sound S (accept kind) fun _ => True := by
  intro ts b rest h _
  rcases accept_eq_ok.1 h with ⟨-, t, rfl, rfl⟩ | ⟨-, rfl, -⟩
  · exact ⟨trivial, .one hk⟩
  · exact ⟨trivial, .refl _⟩

theorem Sound.acceptWord (k : Keyword) : Sound S (acceptWord k) fun _ => True :=
  Sound.accept (by simp)

theorem Sound.expect {kind : Token.Kind} (hk : kind ≠ .unterminated) :
    Sound S (expect kind) fun _ => True := by
  intro ts b rest h _
  obtain ⟨t, rfl, rfl⟩ := expect_eq_ok.1 h
  exact ⟨trivial, .one hk⟩

theorem Sound.expectWord (k : Keyword) : Sound S (expectWord k) fun _ => True :=
  Sound.expect (by simp)

theorem Sound.expectWords (ks : List Keyword) : Sound S (expectWords ks) fun _ => True := by
  induction ks with
  | nil => exact .pure trivial
  | cons k ks ih => exact .bind (.expectWord k) fun _ _ => ih

theorem Sound.check (kind : Token.Kind) : Sound S (check kind) fun _ => True :=
  fun _ _ _ h _ => by cases h; exact ⟨trivial, .refl _⟩

theorem Sound.atEnd : Sound S atEnd fun _ => True :=
  fun _ _ _ h _ => by cases h; exact ⟨trivial, .refl _⟩

theorem Sound.identifier : Sound S identifier fun _ => True := by
  intro ts n rest h _
  refine ⟨trivial, ?_⟩
  cases ts with
  | nil => cases h
  | cons t ts =>
    simp only [Rule.identifier] at h
    split at h
    · next ht =>
      cases h
      exact .one fun hk => by simp [Token.isIdentifier, hk] at ht
    · cases h

/-- A list with commas has something in it, and all of it has the property of its items. -/
theorem Sound.commaList {P : α → Prop} {item : Rule α} (hi : Sound S item P) :
    Sound S (commaList item) fun as => as ≠ [] ∧ ∀ a ∈ as, P a := by
  intro ts
  induction ts using Rule.commaList.induct item with
  | case1 ts f he => intro as rest h; rw [Rule.commaList, he] at h; cases h
  | case2 ts a t rest' hc f hrec he ih =>
    intro as rest h
    rw [Rule.commaList, he] at h
    simp only [if_pos hc, hrec] at h
    cases h
  | case3 ts a t rest' hc as' rest'' hrec he ih =>
    intro as rest h hts
    rw [Rule.commaList, he] at h
    simp only [if_pos hc, hrec, Except.ok.injEq, Prod.mk.injEq] at h
    obtain ⟨rfl, rfl⟩ := h
    obtain ⟨ha, hp⟩ := hi he hts
    have hcomma : Passes (t :: rest') rest' := .one (by rw [hc.1]; simp)
    obtain ⟨⟨-, has⟩, hp'⟩ := ih hrec ((hts.passes hp).passes hcomma)
    exact ⟨⟨by simp, by simpa [ha] using has⟩, (hp.trans hcomma).trans hp'⟩
  | case4 ts a t rest' hc he =>
    intro as rest h hts
    rw [Rule.commaList, he] at h
    simp only [if_neg hc, Except.ok.injEq, Prod.mk.injEq] at h
    obtain ⟨rfl, rfl⟩ := h
    obtain ⟨ha, hp⟩ := hi he hts
    exact ⟨⟨by simp, by simpa using ha⟩, hp⟩
  | case5 ts a he =>
    intro as rest h hts
    rw [Rule.commaList, he] at h
    cases h
    obtain ⟨ha, hp⟩ := hi he hts
    exact ⟨⟨by simp, by simpa using ha⟩, hp⟩

/-- All of a repetition has the property of its items. -/
theorem Sound.many {P : α → Prop} {item : Rule (Option α)}
    (hi : Sound S item fun o => ∀ a ∈ o, P a) : Sound S (many item) fun as => ∀ a ∈ as, P a := by
  intro ts
  induction ts using Rule.many.induct item with
  | case1 ts f he => intro as rest h; rw [Rule.many, he] at h; cases h
  | case2 ts rest' he =>
    intro as rest h hts
    rw [Rule.many, he] at h
    cases h
    exact ⟨by simp, (hi he hts).2⟩
  | case3 ts a rest' he hlt f hrec ih =>
    intro as rest h
    rw [Rule.many, he] at h
    simp only [if_pos hlt, hrec] at h
    cases h
  | case4 ts a rest' he hlt as' rest'' hrec ih =>
    intro as rest h hts
    rw [Rule.many, he] at h
    simp only [if_pos hlt, hrec, Except.ok.injEq, Prod.mk.injEq] at h
    obtain ⟨rfl, rfl⟩ := h
    obtain ⟨ha, hp⟩ := hi he hts
    obtain ⟨has, hp'⟩ := ih hrec (hts.passes hp)
    exact ⟨by simpa [ha a rfl] using has, hp.trans hp'⟩
  | case5 ts a rest' he hlt =>
    intro as rest h hts
    rw [Rule.many, he] at h
    simp only [if_neg hlt, Except.ok.injEq, Prod.mk.injEq] at h
    obtain ⟨rfl, rfl⟩ := h
    obtain ⟨ha, hp⟩ := hi he hts
    exact ⟨by simpa using ha a rfl, hp⟩

theorem Sound.identifierList : Sound S identifierList fun names => names ≠ [] :=
  .bind (.expect (by simp)) fun _ _ => .bind (.commaList .identifier) fun _ h =>
    .bind (.expect (by simp)) fun _ _ => .pure h.1

end Rule

end SchemaPatch
