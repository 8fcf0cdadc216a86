import SchemaPatch.Proofs.Grammar.ReadsCreate
import SchemaPatch.Proofs.Grammar.SoundStatement

/-!
# The range of integers

An integer is read with its exact value if its number, without the sign, is one of 64 bits
(`Rule.integer_of_literal`). So the least of these integers has a text that is refused, and the
creation of a sequence with this number for an option is refused at it
(`Rule.Refuses.createSequence`).

`Rule.Refuses r xs cause x` says that the rule refuses tokens that begin with the symbols `xs`, for what
shows at a token that is the symbol `x`. Refusals are put together as readings are.
-/

namespace SchemaPatch

/-! ### Literals -/

/-- The tokens up to `rest` write an integer: digits, behind a minus sign or not. -/
inductive IntegerLiteral : Int → List Token → List Token → Prop where
  /-- A number without a sign. -/
  | unsigned {t : Token} {n : Nat} (rest : List Token) :
      t.kind = .number → Decimal.toNat? t.literal = some n → IntegerLiteral n (t :: rest) rest
  /-- A number behind a minus sign. -/
  | negative {sign t : Token} {n : Nat} (rest : List Token) :
      sign.kind = .minus → t.kind = .number → Decimal.toNat? t.literal = some n →
        IntegerLiteral (-n) (sign :: t :: rest) rest

namespace Rule

variable {ts rest : List Token}

theorem bind_of_eq_error {α β : Type} {r : Rule α} {f : α → Rule β} {fault : Fault}
    (h : r ts = .error fault) : (r >>= f) ts = .error fault := by
  show Except.bind (r ts) (fun p => f p.1 p.2) = _
  rw [h]
  rfl

theorem bounded_of_lt {what : String} {cause : Fault.Cause} {greatest n : Nat} {t : Token}
    (hk : t.kind = .number) (hn : Decimal.toNat? t.literal = some n) (hlt : greatest < n) :
    bounded what cause greatest (t :: rest) = .error ⟨cause, some t⟩ := by
  simp only [bounded, if_pos hk, hn, if_neg (Nat.not_le.2 hlt)]

/-- **An integer is read with its exact value if it is greater than the least integer of 64 bits** and
not greater than the greatest one, and refused otherwise. -/
theorem integer_of_literal {v : Int} (h : IntegerLiteral v ts rest) :
    (Int64.minValue.toInt < v ∧ v ≤ Int64.maxValue.toInt →
        ∃ n : Int64, integer ts = .ok (n, rest) ∧ n.toInt = v) ∧
      (¬ (Int64.minValue.toInt < v ∧ v ≤ Int64.maxValue.toInt) →
        ∃ t, integer ts = .error ⟨.invalidInteger, some t⟩) := by
  rw [Int64.toInt_minValue, Int64.toInt_maxValue]
  have hvalue : -2 ^ 63 < v ∧ v ≤ 2 ^ 63 - 1 → (Int64.ofInt v).toInt = v :=
    fun hv => Int64.toInt_ofInt_of_le (by omega) (by omega)
  cases h with
  | @unsigned t n _ hk hn =>
    have hsign : ¬ Begins .minus (t :: rest) := by simp [hk]
    rw [integer, not_accept_bind hsign]
    refine ⟨fun hv => ⟨.ofInt n, ?_, hvalue hv⟩, fun hv => ⟨t, ?_⟩⟩
    · exact bind_of_eq_ok (bounded_eq_ok.2 ⟨by omega, t, rfl, hk, hn⟩)
    · exact bind_of_eq_error (bounded_of_lt hk hn (by omega))
  | @negative sign t n _ hs hk hn =>
    rw [integer, accept_bind hs]
    refine ⟨fun hv => ⟨.ofInt (-n), ?_, hvalue hv⟩, fun hv => ⟨t, ?_⟩⟩
    · exact bind_of_eq_ok (bounded_eq_ok.2 ⟨by omega, t, rfl, hk, hn⟩)
    · exact bind_of_eq_error (bounded_of_lt hk hn (by omega))

/-! ### Refusals -/

variable {α β : Type} {p : Token.Kind → Bool} {xs ys : List Symbol} {x y : Symbol}
  {cause : Fault.Cause}

/-- The rule refuses whatever begins with the symbols, for what shows at a token that is the symbol `x`.
-/
def Refuses (r : Rule α) (xs : List Symbol) (cause : Fault.Cause) (x : Symbol) : Prop :=
  ∀ ⦃ts rest⦄, Spells xs ts rest → ∃ t, r ts = .error ⟨cause, some t⟩ ∧ t.symbol = x

namespace Refuses

theorem append {r : Rule α} (h : Refuses r xs cause x) (ys : List Symbol) :
    Refuses r (xs ++ ys) cause x := by
  intro ts rest hs
  obtain ⟨mid, hxs, -⟩ := spells_append.1 hs
  exact h hxs

/-- What is refused at once is refused whatever comes next. -/
theorem first {r : Rule α} (h : Refuses r xs cause x) (f : α → Rule β) :
    Refuses (r >>= f) xs cause x := by
  intro ts rest hs
  obtain ⟨t, ht, hx⟩ := h hs
  exact ⟨t, bind_of_eq_error ht, hx⟩

/-- What is refused behind something that is read. -/
theorem next {r : Rule α} {f : α → Rule β} {a : α} (hr : Reads p r xs a)
    (hf : Refuses (f a) (y :: ys) cause x) (hy : p y.kind) :
    Refuses (r >>= f) (xs ++ y :: ys) cause x := by
  intro ts rest hs
  obtain ⟨mid, hxs, hys⟩ := spells_append.1 hs
  obtain ⟨t, ht, hx⟩ := hf hys
  obtain ⟨u, us, rfl, rfl, -⟩ := spells_cons.1 hys
  exact ⟨t, (bind_of_eq_ok (hr hxs (follows_cons.2 hy))).trans ht, hx⟩

/-- What is refused behind a token that is accepted. -/
theorem accept_seq (y : Symbol) {z : Symbol} {f : Bool → Rule β}
    (hf : Refuses (f true) (z :: ys) cause x) :
    Refuses (Rule.accept y.kind >>= f) (y :: z :: ys) cause x :=
  next (p := Token.Kind.any) (.accept y) hf rfl

/-- What is refused where another token could be accepted. -/
theorem not_accept_seq {kind : Token.Kind} {f : Bool → Rule β}
    (hf : Refuses (f false) (y :: ys) cause x) (hy : kind.isNot y.kind) :
    Refuses (Rule.accept kind >>= f) (y :: ys) cause x :=
  next (.not_accept kind) hf hy

/-- What is refused by a rule that looks whether anything is left. -/
theorem atEnd_seq {f : Bool → Rule α} (hf : Refuses (f false) (y :: ys) cause x) :
    Refuses (atEnd >>= f) (y :: ys) cause x := by
  intro ts rest hs
  obtain ⟨u, us, rfl, -, -⟩ := spells_cons.1 hs
  obtain ⟨t, ht, hx⟩ := hf hs
  exact ⟨t, (bind_of_eq_ok (a := false) rfl).trans ht, hx⟩

/-- A repetition is refused at its first item. -/
theorem many_first {item : Rule (Option α)} (h : Refuses item xs cause x) :
    Refuses (many item) xs cause x := by
  intro ts rest hs
  obtain ⟨t, ht, hx⟩ := h hs
  refine ⟨t, ?_, hx⟩
  rw [many, ht]

/-- A repetition is refused behind an item that is read. -/
theorem many_next {item : Rule (Option α)} {a : α} {z : Symbol} (ha : Reads p item (z :: xs) (some a))
    (h : Refuses (many item) (y :: ys) cause x) (hy : p y.kind) :
    Refuses (many item) (z :: xs ++ y :: ys) cause x := by
  intro ts rest hs
  obtain ⟨mid, hxs, hys⟩ := spells_append.1 hs
  obtain ⟨t, ht, hx⟩ := h hys
  obtain ⟨u, us, rfl, rfl, -⟩ := spells_cons.1 hys
  have hlength : (u :: us).length < ts.length := by
    rw [hxs.length_eq]
    simp only [List.length_cons]
    omega
  refine ⟨t, ?_, hx⟩
  rw [many, ha hxs (follows_cons.2 hy)]
  simp only [if_pos hlength, ht]

/-! ### The least integer -/

/-- The number of the least integer, which is one too many for an integer without a sign. -/
def leastNumber : Symbol := .number 0x8000000000000000

theorem leastNumber_literal : leastNumber.literal = "9223372036854775808" := by decide +kernel

theorem integer_minValue :
    Refuses integer (Symbol.integer Int64.minValue) .invalidInteger leastNumber := by
  have hsymbols : Symbol.integer Int64.minValue = [⟨.minus, "-"⟩, leastNumber] := by decide
  rw [hsymbols]
  intro ts rest hs
  obtain ⟨sign, mid, rfl, hsign, hmid⟩ := spells_cons.1 hs
  obtain ⟨t, mid, rfl, ht, -⟩ := spells_cons.1 hmid
  obtain ⟨hkind, hliteral⟩ := Symbol.mk.inj ht
  refine ⟨t, ?_, ht⟩
  rw [integer, accept_bind (congrArg Symbol.kind hsign)]
  exact bind_of_eq_error (bounded_of_lt hkind (by rw [hliteral, Decimal.toNat?_ofNat]) (by decide))

end Refuses

/-- The number of an option, if it has one. -/
def SequenceOption.number? : SequenceOption → Option Int64
  | start n | increment n | cache n => some n
  | _ => none

theorem Refuses.sequenceOption {o : SequenceOption} (ho : o.number? = some Int64.minValue) :
    Refuses Rule.sequenceOption o.symbols .invalidInteger leastNumber := by
  have hleast : Symbol.integer Int64.minValue = ⟨.minus, "-"⟩ :: [leastNumber] := by decide
  have hinteger := integer_minValue
  rw [hleast] at hinteger
  cases o with
  | start n =>
    cases ho
    rw [SequenceOption.symbols, hleast]
    exact .atEnd_seq (.not_accept_seq (.accept_seq (.word .START) (.accept_seq (.word .WITH)
      (hinteger.first _))) rfl)
  | increment n =>
    cases ho
    rw [SequenceOption.symbols, hleast]
    exact .atEnd_seq (.not_accept_seq (.not_accept_seq (.accept_seq (.word .INCREMENT)
      (.accept_seq (.word .BY) (hinteger.first _))) rfl) rfl)
  | cache n =>
    cases ho
    rw [SequenceOption.symbols, hleast]
    exact .atEnd_seq (.not_accept_seq (.not_accept_seq (.not_accept_seq (.not_accept_seq
      (.accept_seq (.word .CACHE) (hinteger.first _)) rfl) rfl) rfl) rfl)
  | _ => cases ho

/-- Options of which one has the least integer for its number are refused at the first such number. -/
theorem Refuses.options {os : List SequenceOption}
    (h : ∀ o ∈ os, o.Readable ∨ o.number? = some Int64.minValue)
    (hleast : ∃ o ∈ os, o.number? = some Int64.minValue) :
    ∃ z zs, os.flatMap SequenceOption.symbols = z :: zs ∧ z.kind.isQuiet ∧ z.kind ≠ .dot ∧
      Refuses (many Rule.sequenceOption) (z :: zs) .invalidInteger leastNumber := by
  have hfront : ∀ o : SequenceOption, ∃ z zs, o.symbols = z :: zs ∧ z.kind.isQuiet ∧ z.kind ≠ .dot := by
    intro o
    cases o <;> exact ⟨_, _, rfl, rfl, by simp⟩
  induction os with
  | nil =>
    obtain ⟨o, ho, -⟩ := hleast
    cases ho
  | cons o os ih =>
    obtain ⟨ho, hos⟩ := List.forall_mem_cons.1 h
    obtain ⟨z, zs, hz, hquiet, hdot⟩ := hfront o
    refine ⟨z, zs ++ os.flatMap SequenceOption.symbols, by simp [hz], hquiet, hdot, ?_⟩
    by_cases hone : o.number? = some Int64.minValue
    · have hrefused := (Refuses.sequenceOption hone).many_first.append
        (os.flatMap SequenceOption.symbols)
      rwa [hz] at hrefused
    · have hrest : ∃ o ∈ os, o.number? = some Int64.minValue := by
        simpa [hone] using hleast
      obtain ⟨y, ys, hy, hyquiet, -, hrefused⟩ := ih hos hrest
      have hread := Reads.sequenceOption (ho.resolve_right hone)
      rw [hz] at hread
      rw [hy]
      exact many_next hread hrefused hyquiet

end Rule

/-! ### Sequences -/

namespace CreateSequence

/-- The numbers of the options of a sequence. -/
def numbers (s : CreateSequence) : List Int64 :=
  s.start.toList ++ s.increment.toList ++ s.cache.toList

theorem mem_numbers_iff {s : CreateSequence} {n : Int64} :
    n ∈ s.numbers ↔ ∃ o ∈ s.options, o.number? = some n := by
  obtain ⟨name, type, start, increment, noMinvalue, noMaxvalue, cache⟩ := s
  cases noMinvalue <;> cases noMaxvalue <;>
    simp [numbers, options, Rule.SequenceOption.number?, or_and_right, exists_or]

theorem readable_iff {s : CreateSequence} (hs : ∀ t ∈ s.type, t.IsReadable) :
    s.Readable ↔ Int64.minValue ∉ s.numbers := by
  simp only [numbers, List.mem_append, Option.mem_toList, not_or]
  constructor
  · intro h
    exact ⟨⟨fun hm => h.start _ hm rfl, fun hm => h.increment _ hm rfl⟩, fun hm => h.cache _ hm rfl⟩
  · rintro ⟨⟨hstart, hincrement⟩, hcache⟩
    refine ⟨hs, ?_, ?_, ?_⟩ <;>
    · rintro n hn rfl
      contradiction

/-- Options that cannot be read back have the least integer for their number. -/
theorem options_readable_or {s : CreateSequence} (hs : ∀ t ∈ s.type, t.IsReadable) :
    ∀ o ∈ s.options, o.Readable ∨ o.number? = some Int64.minValue := by
  intro o ho
  cases o with
  | type t =>
    refine .inl (hs t ?_)
    obtain ⟨name, type, start, increment, noMinvalue, noMaxvalue, cache⟩ := s
    cases noMinvalue <;> cases noMaxvalue <;> simpa [options] using ho
  | start n | increment n | cache n =>
    by_cases hn : n = Int64.minValue
    · exact .inr (congrArg some hn)
    · exact .inl hn
  | noMinvalue | noMaxvalue => exact .inl trivial

end CreateSequence

/-- **A sequence with the least integer for a number cannot be created by its text**: the number is one
too many before its sign counts. -/
theorem Rule.Refuses.createSequence {s : CreateSequence} (hs : ∀ t ∈ s.type, t.IsReadable)
    (hleast : Int64.minValue ∈ s.numbers) :
    Refuses Rule.createSequence (s.symbols.drop 2) .invalidInteger leastNumber := by
  obtain ⟨z, zs, hz, -, hdot, hrefused⟩ :=
    Refuses.options (CreateSequence.options_readable_or hs) (CreateSequence.mem_numbers_iff.1 hleast)
  rw [s.symbols_eq, hz]
  exact next (Reads.objectName s.name) (hrefused.first _) (by simpa [Token.Kind.isNot] using hdot)

end SchemaPatch
