import SchemaPatch.Proofs.Grammar.Sound
import SchemaPatch.Proofs.Sql.Symbols

/-!
# Rules that read symbols

`Rule.Reads p r xs a` says that the rule reads the symbols `xs` as `a`, whatever the lines of their
tokens, if the kind of the token that follows them has the property `p`. Rules are put together as
their symbols are: `Reads.bind` asks only that what the first rule leaves begins as it has to.
-/

namespace SchemaPatch

/-! ### Tokens that spell symbols -/

/-- The tokens up to `rest` are the symbols. -/
def Spells (xs : List Symbol) (ts rest : List Token) : Prop :=
  ∃ used, ts = used ++ rest ∧ used.map Token.symbol = xs

variable {xs ys : List Symbol} {ts mid rest : List Token}

@[simp] theorem spells_nil : Spells [] ts rest ↔ ts = rest := by
  simp [Spells]

theorem spells_cons {x : Symbol} :
    Spells (x :: xs) ts rest ↔ ∃ t mid, ts = t :: mid ∧ t.symbol = x ∧ Spells xs mid rest := by
  constructor
  · rintro ⟨used, rfl, h⟩
    obtain ⟨t, used, rfl, ht, hused⟩ := List.map_eq_cons_iff.1 h
    exact ⟨t, used ++ rest, rfl, ht, used, rfl, hused⟩
  · rintro ⟨t, mid, rfl, ht, used, rfl, hused⟩
    exact ⟨t :: used, rfl, by simp [ht, hused]⟩

theorem spells_append :
    Spells (xs ++ ys) ts rest ↔ ∃ mid, Spells xs ts mid ∧ Spells ys mid rest := by
  constructor
  · rintro ⟨used, rfl, h⟩
    obtain ⟨u, v, rfl, hu, hv⟩ := List.map_eq_append_iff.1 h
    exact ⟨v ++ rest, ⟨u, by simp, hu⟩, v, rfl, hv⟩
  · rintro ⟨mid, ⟨u, rfl, hu⟩, v, rfl, hv⟩
    exact ⟨u ++ v, by simp, by simp [hu, hv]⟩

theorem Spells.length_eq (h : Spells xs ts rest) : ts.length = xs.length + rest.length := by
  obtain ⟨used, rfl, rfl⟩ := h
  simp

/-! ### What follows -/

/-- The kind of the first token, if there is one, has a property. -/
def Follows (p : Token.Kind → Bool) (ts : List Token) : Prop := ∀ t, ts.head? = some t → p t.kind

@[simp] theorem follows_nil (p : Token.Kind → Bool) : Follows p [] := by simp [Follows]

@[simp] theorem follows_cons {p : Token.Kind → Bool} {t : Token} :
    Follows p (t :: ts) ↔ p t.kind := by
  simp [Follows]

/-- A kind of token that ends an expression, a type or a name: a comma, a closing parenthesis or a
keyword that is no part of one. -/
def Token.Kind.isQuiet : Token.Kind → Bool
  | .comma | .rightParen => true
  | .keyword k => k != .IS && k != .VARYING
  | _ => false

/-- The first of the symbols has a kind with the property `p`. If there are no symbols, this has to
follow from the property `q` of the kind behind them. -/
def Fronts (q : Token.Kind → Bool) (xs : List Symbol) (p : Token.Kind → Bool) : Prop :=
  match xs with
  | [] => ∀ kind, q kind → p kind
  | x :: _ => p x.kind

namespace Fronts

variable {p q r : Token.Kind → Bool}

theorem follows (h : Fronts q xs p) (hs : Spells xs ts rest) (hr : Follows q rest) :
    Follows p ts := by
  cases xs with
  | nil =>
    rw [spells_nil] at hs
    subst hs
    exact fun t ht => h t.kind (hr t ht)
  | cons x xs =>
    obtain ⟨t, mid, rfl, ht, -⟩ := spells_cons.1 hs
    rw [follows_cons, ← Token.symbol_kind, ht]
    exact h

/-- Every kind will do. -/
theorem any (hp : ∀ kind, p kind) : Fronts q xs p := by
  cases xs with
  | nil => exact fun kind _ => hp kind
  | cons x xs => exact hp x.kind

theorem flatMap {α : Type} {spelled : α → List Symbol} {as : List α}
    (h : ∀ a ∈ as, ∃ x xs, spelled a = x :: xs ∧ p x.kind) (hp : ∀ kind, q kind → p kind) :
    Fronts q (as.flatMap spelled) p := by
  cases as with
  | nil => exact hp
  | cons a as =>
    obtain ⟨x, xs, hx, hpx⟩ := h a (List.mem_cons_self ..)
    rw [List.flatMap_cons, hx]
    exact hpx

theorem mono (h : Fronts q xs p) (hpr : ∀ kind, p kind → r kind) : Fronts q xs r := by
  cases xs with
  | nil => exact fun kind hk => hpr kind (h kind hk)
  | cons x xs => exact hpr x.kind h

end Fronts

/-- Every kind of token. -/
def Token.Kind.any (_ : Token.Kind) : Bool := true

/-- No kind of token: nothing follows. -/
def Token.Kind.nothing (_ : Token.Kind) : Bool := false

/-- A comma or a closing parenthesis. -/
def Token.Kind.closes : Token.Kind → Bool
  | .comma | .rightParen => true
  | _ => false

theorem Token.Kind.isQuiet_of_closes (kind : Token.Kind) (h : kind.closes) : kind.isQuiet := by
  cases kind <;> first | rfl | cases h

/-- Every kind of token but one. -/
def Token.Kind.isNot (kind kind' : Token.Kind) : Bool := kind' != kind

theorem Follows.not_begins {kind : Token.Kind} (h : Follows kind.isNot ts) : ¬ Begins kind ts := by
  cases ts with
  | nil => simp
  | cons t ts => simpa [Token.Kind.isNot] using h

/-! ### Rules -/

namespace Rule

variable {α β : Type} {p q : Token.Kind → Bool}

/-- The rule reads the symbols as `a` if a token with the property `p` or nothing follows them. -/
def Reads (p : Token.Kind → Bool) (r : Rule α) (xs : List Symbol) (a : α) : Prop :=
  ∀ ⦃ts rest⦄, Spells xs ts rest → Follows p rest → r ts = .ok (a, rest)

namespace Reads

theorem pure (a : α) : Reads p (pure a) [] a := by
  intro ts rest hs _
  rw [spells_nil.1 hs]
  rfl

theorem bind {r : Rule α} {f : α → Rule β} {a : α} {b : β} (hr : Reads p r xs a)
    (hf : Reads q (f a) ys b) (h : Fronts q ys p) : Reads q (r >>= f) (xs ++ ys) b := by
  intro ts rest hs hq
  obtain ⟨mid, hx, hy⟩ := spells_append.1 hs
  exact bind_eq_ok.2 ⟨a, mid, hr hx (h.follows hy hq), hf hy hq⟩

/-- A rule that does not look at what follows, and another one. -/
theorem seq {r : Rule α} {f : α → Rule β} {a : α} {b : β} (hr : Reads Token.Kind.any r xs a)
    (hf : Reads q (f a) ys b) : Reads q (r >>= f) (xs ++ ys) b :=
  hr.bind hf (.any fun _ => rfl)

/-- A rule whose result is put into something else. -/
theorem map {r : Rule α} {a : α} (hr : Reads q r xs a) (f : α → β) :
    Reads q (r >>= fun a => Pure.pure (f a)) xs (f a) := by
  intro ts rest hs hq
  exact bind_eq_ok.2 ⟨a, rest, hr hs hq, rfl⟩

/-- A rule that reads one symbol, and another one. -/
theorem cons {r : Rule α} {f : α → Rule β} {x : Symbol} {a : α} {b : β}
    (hr : Reads Token.Kind.any r [x] a) (hf : Reads q (f a) ys b) : Reads q (r >>= f) (x :: ys) b :=
  hr.seq hf

/-- A rule that takes nothing, and another one. -/
theorem skip {r : Rule α} {f : α → Rule β} {a : α} {b : β} (hr : Reads p r [] a)
    (hf : Reads q (f a) ys b) (h : Fronts q ys p) : Reads q (r >>= f) ys b :=
  hr.bind hf h

theorem mono {r : Rule α} {a : α} (h : Reads p r xs a) (hpq : ∀ kind, q kind → p kind) :
    Reads q r xs a := fun _ _ hs hq => h hs fun t ht => hpq t.kind (hq t ht)

theorem accept (x : Symbol) : Reads p (accept x.kind) [x] true := by
  intro ts rest hs _
  obtain ⟨t, mid, rfl, rfl, hmid⟩ := spells_cons.1 hs
  rw [spells_nil.1 hmid]
  exact accept_eq_ok.2 (.inl ⟨rfl, t, rfl, rfl⟩)

/-- A token that is accepted, and a rule behind it. -/
theorem accept_seq (x : Symbol) {f : Bool → Rule β} {b : β} (hf : Reads q (f true) ys b) :
    Reads q (Rule.accept x.kind >>= f) (x :: ys) b :=
  seq (accept x) hf

theorem not_accept (kind : Token.Kind) : Reads kind.isNot (Rule.accept kind) [] false := by
  intro ts rest hs hr
  rw [spells_nil.1 hs]
  exact accept_eq_ok.2 (.inr ⟨rfl, rfl, hr.not_begins⟩)

/-- A rule in front of which another token could be accepted. -/
theorem not_accept_seq {kind : Token.Kind} {f : Bool → Rule β} {b : β} (hf : Reads q (f false) ys b)
    (h : Fronts q ys kind.isNot) : Reads q (Rule.accept kind >>= f) ys b :=
  skip (not_accept kind) hf h

/-- A keyword that may be left out. -/
theorem acceptWord (b : Bool) (k : Keyword) : Reads (Token.Kind.isNot (.keyword k)) (acceptWord k)
    (if b then [.word k] else []) b := by
  cases b with
  | false => exact not_accept (.keyword k)
  | true => exact accept (.word k)

theorem expect (x : Symbol) : Reads p (expect x.kind) [x] () := by
  intro ts rest hs _
  obtain ⟨t, mid, rfl, rfl, hmid⟩ := spells_cons.1 hs
  rw [spells_nil.1 hmid]
  exact expect_eq_ok.2 ⟨t, rfl, rfl⟩

/-- A token that has to stand there, and a rule behind it. -/
theorem expect_seq (x : Symbol) {f : Unit → Rule β} {b : β} (hf : Reads q (f ()) ys b) :
    Reads q (Rule.expect x.kind >>= f) (x :: ys) b :=
  seq (expect x) hf

/-- Keywords are read however they are spelled. -/
theorem expectWords {ks : List Keyword} (h : xs.map Symbol.kind = ks.map .keyword) :
    Reads p (expectWords ks) xs () := by
  induction ks generalizing xs with
  | nil =>
    rw [List.map_nil, List.map_eq_nil_iff] at h
    rw [h]
    exact .pure ()
  | cons k ks ih =>
    rw [List.map_cons] at h
    obtain ⟨x, xs, rfl, hx, hxs⟩ := List.map_eq_cons_iff.1 h
    show Reads p (Rule.expect (.keyword k) >>= fun _ => Rule.expectWords ks) (x :: xs) ()
    rw [← hx]
    exact .expect_seq x (ih hxs)

/-- Keywords that have to stand there, and a rule behind them. -/
theorem words_seq (ks : List Keyword) {f : Unit → Rule β} {b : β} (hf : Reads q (f ()) ys b) :
    Reads q (Rule.expectWords ks >>= f) (ks.map Symbol.word ++ ys) b :=
  seq (expectWords (by simp [Symbol.word])) hf

theorem identifier (n : Identifier) : Reads p identifier [.name n] n := by
  intro ts rest hs _
  obtain ⟨t, mid, rfl, ht, hmid⟩ := spells_cons.1 hs
  obtain ⟨hkind, hliteral⟩ := Symbol.mk.inj ht
  rw [spells_nil.1 hmid, Rule.identifier, if_pos (by rw [Token.isIdentifier, hkind]), hliteral,
    Identifier.ofLiteral_sql]

/-- A list with commas, where every item may be followed by a comma. -/
theorem commaList {item : Rule α} {spelled : α → List Symbol} {as : List α} (hne : as ≠ [])
    (hitem : ∀ a ∈ as, Reads p item (spelled a) a) (hcomma : p .comma)
    (hq : ∀ kind, q kind → p kind ∧ kind ≠ .comma) :
    Reads q (commaList item) (Symbol.listed (as.map spelled)) as := by
  induction as with
  | nil => exact absurd rfl hne
  | cons a as ih =>
    obtain ⟨ha, has⟩ := List.forall_mem_cons.1 hitem
    intro ts rest hs hr
    cases as with
    | nil =>
      have hone := ha hs fun t ht => (hq t.kind (hr t ht)).1
      rw [Rule.commaList, hone]
      cases rest with
      | nil => rfl
      | cons t rest =>
        have hkind : t.kind ≠ .comma := (hq t.kind (follows_cons.1 hr)).2
        simp [hkind]
    | cons b as =>
      obtain ⟨mid, hx, hmid⟩ := spells_append.1 hs
      obtain ⟨t, mid, rfl, ht, hy⟩ := spells_cons.1 hmid
      have hkind : t.kind = .comma := congrArg Symbol.kind ht
      have hlength : mid.length < ts.length := by
        rw [hx.length_eq, List.length_cons]
        omega
      have hone := ha hx (by rw [follows_cons, hkind]; exact hcomma)
      rw [Rule.commaList, hone]
      simp only [hkind, hlength, and_self, if_true, ih (by simp) has hy hr]

/-- A repetition of items, each of which reads a symbol, up to where there is none. -/
theorem many {item : Rule (Option α)} {spelled : α → List Symbol} {as : List α}
    (hitem : ∀ a ∈ as, Reads p item (spelled a) (some a))
    (hfront : ∀ a ∈ as, ∃ x xs, spelled a = x :: xs ∧ p x.kind)
    (hp : ∀ kind, q kind → p kind) (hstop : Reads q item [] none) :
    Reads q (many item) (as.flatMap spelled) as := by
  induction as with
  | nil =>
    intro ts rest hs hr
    rw [Rule.many, hstop hs hr]
  | cons a as ih =>
    obtain ⟨ha, has⟩ := List.forall_mem_cons.1 hitem
    obtain ⟨⟨x, xs, hx, -⟩, hfronts⟩ := List.forall_mem_cons.1 hfront
    intro ts rest hs hr
    rw [List.flatMap_cons] at hs
    obtain ⟨mid, hsx, hsy⟩ := spells_append.1 hs
    have hmid : Fronts q (as.flatMap spelled) p := .flatMap hfronts hp
    have hone := ha hsx (hmid.follows hsy hr)
    have hlength : mid.length < ts.length := by
      rw [hsx.length_eq, hx, List.length_cons]
      omega
    rw [Rule.many, hone]
    simp only [hlength, if_true, ih has hfronts hsy hr]

end Reads

end Rule

end SchemaPatch
