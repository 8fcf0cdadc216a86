import SchemaPatch.Proofs.Document.RoundTrip
import SchemaPatch.Proofs.Grammar.Integers

/-!
# Sequences read back

The creation of a sequence is read back from its text over the whole range of integers but for the
least one, at which it is refused (`Document.ofText_createSequence`).
-/

namespace SchemaPatch

/-- A text that lexes to symbols which can stand inside a statement and a semicolon is read in one
attempt. -/
theorem TokenStream.attempts_of_symbols {text : String} {xs : List Symbol} (hxs : Plain xs)
    (h : symbols text.toList = xs ++ [Symbol.semicolon]) : ∃ body semicolon,
      body.map Token.symbol = xs ∧
        (ofText text).primed.attempts = [.ofPortion (.statement body semicolon)] := by
  rw [← symbols_toList] at h
  obtain ⟨body, stops, htokens, hbody, hstops⟩ := List.map_eq_append_iff.1 h
  obtain ⟨semicolon, rest, rfl, hsemicolon, hrest⟩ := List.map_eq_cons_iff.1 hstops
  obtain rfl := List.map_eq_nil_iff.1 hrest
  have hkind : semicolon.kind = .semicolon := congrArg Symbol.kind hsemicolon
  have hplain : ∀ t ∈ body, t.kind.isPlain := fun t ht =>
    hxs t.symbol (hbody ▸ List.mem_map_of_mem ht)
  have hterminated : ∀ t ∈ (ofText text).tokens, t.kind ≠ .unterminated := by
    rw [htokens]
    intro t ht hk
    rcases List.mem_append.1 ht with ht | ht
    · have := hplain t ht
      simp [hk] at this
    · simp [List.mem_singleton.1 ht, hkind] at hk
  refine ⟨body, semicolon, hbody, ?_⟩
  have hstream : ofText text = ⟨body ++ [semicolon], (ofText text).stop⟩ := by
    rw [← htokens]
  rw [primed_of_plain hterminated, attempts, hstream,
    portions_of_isPlain [] _ hplain hkind, portions_nil]
  rfl

namespace Document

/-- A sequence without the least integer is read back. -/
theorem ofText_readable_createSequence (name : String) {s : CreateSequence} (hs : s.Readable) :
    (ofText name s.sql).errors = [] ∧ (ofText name s.sql).statements = [.createSequence s] := by
  have hsymbols : symbols s.sql.toList = Statement.symbolsAll [.createSequence s] := by
    have h : symbols (s.sql.toList ++ []) = s.symbols ++ Symbol.semicolon :: symbols [] := s.symbols_sql
    simpa [Statement.symbolsAll, Statement.symbols] using h
  have hread := ofText_of_symbols name (l := [.createSequence s])
    (by simpa [Statement.Readable] using hs) hsymbols
  exact hread

/-- A sequence with the least integer is refused at the number of it. -/
theorem ofText_unreadable_createSequence (name : String) {s : CreateSequence}
    (hs : ∀ t ∈ s.type, t.IsReadable) (hleast : Int64.minValue ∈ s.numbers) :
    (ofText name s.sql).statements = [] ∧ ∃ line,
      (ofText name s.sql).errors = [⟨name, line, "invalid integer 9223372036854775808"⟩] := by
  have hsymbols : symbols s.sql.toList = s.symbols ++ [Symbol.semicolon] := by
    have h : symbols (s.sql.toList ++ []) = s.symbols ++ Symbol.semicolon :: symbols [] := s.symbols_sql
    simpa using h
  obtain ⟨body, semicolon, hbody, hattempts⟩ :=
    TokenStream.attempts_of_symbols s.plain_symbols hsymbols
  have hspells : Spells s.symbols body [] := ⟨body, (List.append_nil body).symm, hbody⟩
  obtain ⟨t, u, us, rfl, ht, hu, hus⟩ := Reading.words_front hspells
  obtain ⟨v, hv, hsymbol⟩ := Rule.Refuses.createSequence hs hleast hus
  obtain ⟨-, hliteral⟩ := Symbol.mk.inj hsymbol
  have hreading : (Reading.ofTokens (t :: u :: us) semicolon).result =
      .error ⟨.invalidInteger, some v⟩ := by
    simp only [Reading.ofTokens, ht, Reading.create, hu, Reading.ofRule, hv]
  have houtcome : (Attempt.ofPortion (.statement (t :: u :: us) semicolon)).outcome =
      .failed .invalidInteger v := by
    rw [Attempt.ofPortion, hreading]
    rfl
  have hmessage : Fault.Cause.invalidInteger.message v = "invalid integer 9223372036854775808" := by
    have hnumber := hliteral.trans Rule.Refuses.leastNumber_literal
    show "invalid integer " ++ v.literal = _
    rw [hnumber]
    rfl
  refine ⟨?_, v.line, ?_⟩
  · simp only [statements, ofText_eq, hattempts, List.filterMap_cons, List.filterMap_nil,
      Attempt.statement?, houtcome]
  · simp only [errors, ofText_eq, hattempts, List.filterMap_cons, List.filterMap_nil, Attempt.error?,
      houtcome, Fault.Cause.locate, hmessage]

/-- **The creation of a sequence is read back from its text unless one of its numbers is the least
integer**, where its name, its options and its numbers may be any others and its type one that is read
somewhere. With the least integer the text is refused, as an integer is read with its exact value if
it is greater than the least one and not greater than the greatest one, and otherwise not at all. -/
theorem ofText_createSequence (name : String) (s : CreateSequence)
    (hs : ∀ t ∈ s.type, ∃ ts rest, Rule.dataType ts = .ok (t, rest)) :
    (Int64.minValue ∉ s.numbers →
        (ofText name s.sql).errors = [] ∧ (ofText name s.sql).statements = [.createSequence s]) ∧
      (Int64.minValue ∈ s.numbers →
        (ofText name s.sql).statements = [] ∧ ∃ line,
          (ofText name s.sql).errors = [⟨name, line, "invalid integer 9223372036854775808"⟩]) ∧
      ∀ v ts rest, IntegerLiteral v ts rest →
        (Int64.minValue.toInt < v ∧ v ≤ Int64.maxValue.toInt →
            ∃ n : Int64, Rule.integer ts = .ok (n, rest) ∧ n.toInt = v) ∧
          (¬ (Int64.minValue.toInt < v ∧ v ≤ Int64.maxValue.toInt) →
            ∃ t, Rule.integer ts = .error ⟨.invalidInteger, some t⟩) := by
  have htype : ∀ t ∈ s.type, t.IsReadable := by
    intro t ht
    obtain ⟨ts, rest, hread⟩ := hs t ht
    exact (Rule.Sound.dataType (S := fun _ => True) hread fun _ _ => trivial).1
  exact ⟨fun h => ofText_readable_createSequence name ((CreateSequence.readable_iff htype).2 h),
    ofText_unreadable_createSequence name htype, fun _ _ _ => Rule.integer_of_literal⟩

/-- A sequence of large integers that starts at a number. -/
def startingAt (n : Int64) : CreateSequence :=
  { CreateSequence.plain ⟨none, ⟨"s"⟩⟩ with type := some .bigint, start := some n }

/-- A sequence that starts at the greatest integer is read back, one that starts at the least integer is
not. -/
theorem ofText_createSequence_startingAt :
    ((ofText "dump" (startingAt Int64.maxValue).sql).errors = [] ∧
      (ofText "dump" (startingAt Int64.maxValue).sql).statements =
        [.createSequence (startingAt Int64.maxValue)]) ∧
      (ofText "dump" (startingAt Int64.minValue).sql).statements = [] ∧
      ∃ line, (ofText "dump" (startingAt Int64.minValue).sql).errors =
        [⟨"dump", line, "invalid integer 9223372036854775808"⟩] := by
  have htype : ∀ n, ∀ t ∈ (startingAt n).type, ∃ ts rest, Rule.dataType ts = .ok (t, rest) := by
    rintro n _ ⟨⟩
    exact ⟨[⟨.keyword .BIGINT, "bigint", 1⟩], [], rfl⟩
  obtain ⟨hread, -, -⟩ := ofText_createSequence "dump" (startingAt Int64.maxValue) (htype _)
  obtain ⟨-, hrefused, -⟩ := ofText_createSequence "dump" (startingAt Int64.minValue) (htype _)
  exact ⟨hread (by decide), hrefused (by decide)⟩

end Document

end SchemaPatch
