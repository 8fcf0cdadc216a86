import SchemaPatch.Document.Basic
import SchemaPatch.Proofs.Document.Portions
import SchemaPatch.Proofs.Grammar.SoundStatement
import SchemaPatch.Proofs.Token.Calls

/-!
# A reader takes a document portion by portion

A reader sees two tokens at a time, and goes to the end of a statement from where reading it came to
an end. What it sees in all are the tokens of the text, but for the second of two tokens in all, which
it takes for a stray character if the text breaks off in it (`Reader.stream_ofText`). Where in a
statement its end is looked for makes no difference (`Reader.synchronize_skip`). So reading a document
is reading the portions of its tokens, each by itself (`Document.ofText_eq`).
-/

namespace SchemaPatch

/-! ### Where a lexer breaks off -/

namespace Lexer

theorem next_of_finished {l : Lexer} (h : l.finished) : l.next = (.eof l.line, l) := if_pos h

/-- A lexer that is finished with an illegal token has handed out an unterminated one. -/
theorem isIllegal_and_finished (l : Lexer) :
    (l.next.1.kind.isIllegal && l.next.2.finished) = (l.next.1.kind == .unterminated) := by
  have hkind : ∀ k : Token.Kind, (k.isIllegal && k == .unterminated) = (k == .unterminated) := by
    intro k
    cases k <;> rfl
  unfold next
  split
  · rfl
  · split
    · rfl
    · rfl
    · exact hkind _

theorem finished_of_unterminated {l : Lexer} (h : l.next.1.kind = .unterminated) :
    l.next.2.finished := by
  have hboth := l.isIllegal_and_finished
  rw [h] at hboth
  exact (Bool.and_eq_true_iff.1 hboth).2

end Lexer

namespace Reader

/-! ### The token that is seen -/

theorem seen_of_not_isIllegal {r : Reader} (h : r.current.kind.isIllegal = false) :
    r.seen = r.current := by
  simp [seen, h]

theorem seen_of_isIllegal {r : Reader} (h : r.current.kind.isIllegal) :
    r.seen = { r.current with kind := if r.atBreak then .unterminated else .stray } := if_pos h

theorem seen_kind_eq_unterminated_iff (r : Reader) : r.seen.kind = .unterminated ↔ r.atBreak := by
  cases h : r.current.kind.isIllegal with
  | true =>
    rw [seen_of_isIllegal h]
    cases r.atBreak <;> simp
  | false =>
    have hkind : r.current.kind ≠ .unterminated := fun hk => by simp [hk, Token.Kind.isIllegal] at h
    simp [seen_of_not_isIllegal h, atBreak, h, hkind]

/-- Of tokens that are not illegal nothing else is seen than what they are. -/
theorem seen_kind_eq_iff (r : Reader) {k : Token.Kind} (hk : k.isIllegal = false) :
    r.seen.kind = k ↔ r.current.kind = k := by
  cases h : r.current.kind.isIllegal with
  | true =>
    have hcurrent : r.current.kind ≠ k := fun heq => by simp [heq, hk] at h
    have hseen : r.seen.kind ≠ k := by
      rw [seen_of_isIllegal h]
      rintro rfl
      cases hb : r.atBreak <;> simp [hb, Token.Kind.isIllegal] at hk
    exact iff_of_false hseen hcurrent
  | false => rw [seen_of_not_isIllegal h]

theorem seen_of_atEnd {r : Reader} (h : r.atEnd) : r.seen = r.current := by
  apply seen_of_not_isIllegal
  rcases Bool.or_eq_true_iff.1 h with hk | hk
  · rw [beq_iff_eq.1 hk]
    rfl
  · rw [show r.current.kind = .endOfInput from beq_iff_eq.1 hk]
    rfl

/-- Where the document breaks off, the statement ends with the next token. -/
theorem atEnd_advance_of_atBreak {r : Reader} (h : r.atBreak) : r.advance.atEnd := by
  have hpeek : r.advance.isDone := (Bool.and_eq_true _ _ ▸ h).2
  simp [atEnd, hpeek]

/-! ### All that a reader sees -/

/-- The tokens that a reader sees from here on, and the end of the document. -/
def stream (r : Reader) : TokenStream :=
  if _h : r.isDone then ⟨[], r.current⟩
  else
    let s := r.advance.stream
    ⟨r.seen :: s.tokens, s.stop⟩
termination_by r.budget
decreasing_by exact budget_advance_lt (by simpa using _h)

theorem stream_of_isDone {r : Reader} (h : r.isDone) : r.stream = ⟨[], r.current⟩ := by
  rw [stream, dif_pos h]

theorem stream_of_not_isDone {r : Reader} (h : r.isDone = false) :
    r.stream = ⟨r.seen :: r.advance.stream.tokens, r.advance.stream.stop⟩ := by
  rw [stream, dif_neg (by simp [h])]

/-- The tokens that a reader will be handed out from here on. -/
def remaining (r : Reader) : TokenStream :=
  if r.isDone then ⟨[], r.current⟩
  else if r.peek.isEof then ⟨[r.current], r.peek⟩
  else ⟨r.current :: r.peek :: r.lexer.drain.1, r.lexer.drain.2⟩

theorem remaining_of_not_isDone {r : Reader} (h : r.isDone = false) :
    r.remaining = ⟨r.current :: r.advance.remaining.tokens, r.advance.remaining.stop⟩ := by
  have hdone : r.advance.isDone = r.peek.isEof := rfl
  rw [remaining, remaining, if_neg (by simp [h]), hdone]
  cases hpeek : r.peek.isEof with
  | true => rfl
  | false =>
    cases hnext : r.lexer.next.1.isEof with
    | true => simp [advance, hnext, Lexer.drain_of_isEof hnext]
    | false => simp [advance, hnext, Lexer.drain_of_not_isEof hnext]

theorem remaining_ofText (text : String) : (ofText text).remaining = TokenStream.ofText text := by
  rw [remaining, TokenStream.ofText]
  cases hfirst : (Lexer.ofText text).next.1.isEof with
  | true => simp [ofText, isDone, hfirst, Lexer.drain_of_isEof hfirst]
  | false =>
    rw [Lexer.drain_of_not_isEof hfirst]
    cases hsecond : (Lexer.ofText text).next.2.next.1.isEof with
    | true => simp [ofText, isDone, hfirst, hsecond, Lexer.drain_of_isEof hsecond]
    | false => simp [ofText, isDone, hfirst, hsecond, Lexer.drain_of_not_isEof hsecond]

/-- What a reader knows of a text that breaks off: the end follows an unterminated token, and the
reader has seen it coming. -/
structure Aware (r : Reader) : Prop where
  finished : r.peek.kind = .unterminated → r.lexer.finished
  peek : r.current.kind = .unterminated → r.peek.isEof
  truncated : r.isDone = false →
    (r.truncated ↔ r.current.kind = .unterminated ∨ r.peek.kind = .unterminated)

namespace Aware

variable {r : Reader}

theorem advance (h : r.Aware) (hr : r.isDone = false) : r.advance.Aware where
  finished hk := Lexer.finished_of_unterminated hk
  peek hk := by
    have hfinished := h.finished hk
    simp [Reader.advance, Lexer.next_of_finished hfinished, Token.isEof, Token.eof]
  truncated hpeek := by
    have hcurrent : r.current.kind ≠ .unterminated := fun hk => by
      rw [show r.advance.isDone = r.peek.isEof from rfl, h.peek hk] at hpeek
      cases hpeek
    simp [Reader.advance, h.truncated hr, hcurrent, r.lexer.isIllegal_and_finished]

/-- An aware reader sees its token as it is. -/
theorem seen (h : r.Aware) (hr : r.isDone = false) : r.seen = r.current := by
  cases hill : r.current.kind.isIllegal with
  | false => exact seen_of_not_isIllegal hill
  | true =>
    have hbreak : r.atBreak ↔ r.current.kind = .unterminated := by
      rw [atBreak, hill, Bool.and_true, Bool.and_eq_true, h.truncated hr]
      constructor
      · rintro ⟨hk | hk, heof⟩
        · exact hk
        · simp [Token.isEof, hk] at heof
      · intro hk
        exact ⟨.inl hk, h.peek hk⟩
    have hkind : (if r.atBreak then Token.Kind.unterminated else .stray) = r.current.kind := by
      cases hk : r.current.kind with
      | stray | unterminated => simp [hbreak, hk]
      | _ => simp [hk, Token.Kind.isIllegal] at hill
    rw [seen_of_isIllegal hill, hkind]

/-- An aware reader sees the tokens that it is handed out. -/
theorem stream (h : r.Aware) : r.stream = r.remaining := by
  induction hb : r.budget using Nat.strongRecOn generalizing r with
  | _ b ih =>
    subst hb
    cases hr : r.isDone with
    | true => rw [stream_of_isDone hr, remaining, if_pos hr]
    | false =>
      rw [stream_of_not_isDone hr, remaining_of_not_isDone hr, h.seen hr,
        ih _ (budget_advance_lt hr) (h.advance hr) rfl]

end Aware

/-- Unless the second token is unterminated, the reader of a text is aware. -/
theorem ofText_aware {text : String} (h : (ofText text).peek.kind ≠ .unterminated) :
    (ofText text).Aware where
  finished hk := absurd hk h
  peek hk := by
    have hnext := Lexer.next_of_finished (Lexer.finished_of_unterminated hk)
    simp [ofText, hnext, Token.isEof, Token.eof]
  truncated _ := by
    have hboth := (Lexer.ofText text).isIllegal_and_finished
    rw [show (ofText text).truncated = _ from hboth, beq_iff_eq]
    exact ⟨.inl, fun hor => hor.resolve_right h⟩

/-- A reader that has not marked an unterminated token behind its own takes it for a stray character.
It is the last one. -/
theorem stream_of_unmarked {r : Reader} (hdone : r.isDone = false) (hmark : r.truncated = false)
    (hcurrent : r.current.kind ≠ .unterminated) (hpeek : r.peek.kind = .unterminated)
    (hfinished : r.lexer.finished) :
    r.remaining = ⟨[r.current, r.peek], .eof r.lexer.line⟩ ∧
      r.stream = ⟨[r.current, { r.peek with kind := .stray }], .eof r.lexer.line⟩ := by
  have hnext := Lexer.next_of_finished hfinished
  have hdone' : r.advance.isDone = false := by simp [advance, isDone, Token.isEof, hpeek]
  have hdone'' : r.advance.advance.isDone := by simp [advance, isDone, hnext, Token.isEof, Token.eof]
  constructor
  · rw [remaining_of_not_isDone hdone, remaining_of_not_isDone hdone', remaining, if_pos hdone'']
    simp [advance, hnext]
  · have hseen : r.seen = r.current := by
      cases hill : r.current.kind.isIllegal with
      | false => exact seen_of_not_isIllegal hill
      | true =>
        have hkind : r.current.kind = .stray := by
          cases hk : r.current.kind <;> simp_all [Token.Kind.isIllegal]
        simp [seen, atBreak, hmark, hill, ← hkind]
    have hseen' : r.advance.seen = { r.peek with kind := .stray } := by
      simp [seen, atBreak, advance, hpeek, hmark, hnext, Token.Kind.isIllegal, Token.eof]
    rw [stream_of_not_isDone hdone, stream_of_not_isDone hdone', stream_of_isDone hdone'', hseen,
      hseen']
    simp [advance, hnext]

/-- If the second token of a text is unterminated, it is the last one and seen as a stray character. -/
theorem stream_ofText_of_peek {text : String} (h : (ofText text).peek.kind = .unterminated) :
    ∃ t u stop, TokenStream.ofText text = ⟨[t, u], stop⟩ ∧ u.kind = .unterminated ∧
      (ofText text).stream = ⟨[t, { u with kind := .stray }], stop⟩ := by
  have hrunning : (Lexer.ofText text).next.2.finished = false := by
    cases hf : (Lexer.ofText text).next.2.finished with
    | true => simp [ofText, Lexer.next_of_finished hf, Token.eof] at h
    | false => rfl
  have hdone : (ofText text).isDone = false := by
    cases hd : (Lexer.ofText text).next.1.isEof with
    | true =>
      obtain ⟨rest, line, hnext⟩ := Lexer.next_of_isEof hd
      simp [hnext] at hrunning
    | false => exact hd
  have hcurrent : (ofText text).current.kind ≠ .unterminated := by
    have hboth := (Lexer.ofText text).isIllegal_and_finished
    rw [hrunning, Bool.and_false] at hboth
    exact fun hk => by simp [show (Lexer.ofText text).next.1.kind = .unterminated from hk] at hboth
  obtain ⟨hremaining, hstream⟩ := stream_of_unmarked hdone (by simp [ofText, hrunning]) hcurrent h
    (Lexer.finished_of_unterminated h)
  exact ⟨_, _, _, (remaining_ofText text).symm.trans hremaining, h, hstream⟩

/-- **A reader sees the tokens of its text**, but for the second of two tokens in all. -/
theorem stream_ofText (text : String) : (ofText text).stream = (TokenStream.ofText text).primed := by
  by_cases h : (ofText text).peek.kind = .unterminated
  · obtain ⟨t, u, stop, htokens, hu, hstream⟩ := stream_ofText_of_peek h
    simp [hstream, htokens, TokenStream.primed, hu]
  · rw [(ofText_aware h).stream, remaining_ofText, TokenStream.primed]
    split
    · next t u htokens =>
      have hu : u.kind ≠ .unterminated := by
        rw [← remaining_ofText, remaining] at htokens
        split at htokens
        · cases htokens
        · split at htokens
          · cases htokens
          · rw [List.cons.injEq, List.cons.injEq] at htokens
            exact htokens.2.1 ▸ h
      rw [if_neg hu]
    · rfl

/-! ### The end of a statement -/

theorem toEnd_of_atEnd {r : Reader} (h : r.atEnd) : r.toEnd = ([], r) := by
  rw [toEnd, dif_pos h]

theorem toEnd_of_not_atEnd {r : Reader} (h : r.atEnd = false) :
    r.toEnd = (r.seen :: r.advance.toEnd.1, r.advance.toEnd.2) := by
  rw [toEnd, dif_neg (by simp [h])]

/-- A reader is at the end of a statement, or goes on towards it. -/
@[elab_as_elim]
theorem toEnd_induction {motive : Reader → Prop} (stop : ∀ r : Reader, r.atEnd → motive r)
    (token : ∀ r : Reader, r.atEnd = false → motive r.advance → motive r) (r : Reader) :
    motive r := by
  induction hb : r.budget using Nat.strongRecOn generalizing r with
  | _ b ih =>
    subst hb
    cases he : r.atEnd with
    | true => exact stop r he
    | false => exact token r he (ih _ (budget_advance_of_atEnd he) _ rfl)

theorem isDone_of_not_atEnd {r : Reader} (h : r.atEnd = false) : r.isDone = false :=
  (Bool.or_eq_false_iff.1 h).2

theorem atEnd_toEnd (r : Reader) : r.toEnd.2.atEnd := by
  induction r using toEnd_induction with
  | stop r h => rwa [toEnd_of_atEnd h]
  | token r h ih => rwa [toEnd_of_not_atEnd h]

theorem toEnd_eq_nil_iff (r : Reader) : r.toEnd.1 = [] ↔ r.atEnd := by
  cases h : r.atEnd with
  | true => simp [toEnd_of_atEnd h]
  | false => simp [toEnd_of_not_atEnd h]

/-- No semicolon comes before the end. -/
theorem isBody_of_mem_toEnd (r : Reader) : ∀ t ∈ r.toEnd.1, t.isBody := by
  induction r using toEnd_induction with
  | stop r h => simp [toEnd_of_atEnd h]
  | token r h ih =>
    have hseen : r.seen.isBody := by
      have hcurrent : r.current.kind ≠ .semicolon := by
        simpa using (Bool.or_eq_false_iff.1 h).1
      simpa [Token.isBody] using (r.seen_kind_eq_iff (k := .semicolon) rfl).not.2 hcurrent
    rw [toEnd_of_not_atEnd h]
    exact List.forall_mem_cons.2 ⟨hseen, ih⟩

/-- The tokens of a statement come first, and then what is seen at its end. -/
theorem stream_eq_toEnd (r : Reader) :
    r.stream = ⟨r.toEnd.1 ++ r.toEnd.2.stream.tokens, r.toEnd.2.stream.stop⟩ := by
  induction r using toEnd_induction with
  | stop r h => rw [toEnd_of_atEnd h, List.nil_append]
  | token r h ih =>
    rw [stream_of_not_isDone (isDone_of_not_atEnd h), ih, toEnd_of_not_atEnd h, List.cons_append]

/-! ### Behind the end of a statement -/

theorem synchronize_of_atEnd {r : Reader} (h : r.atEnd) :
    r.synchronize = (none, if r.current.kind = .semicolon then r.advance else r) := by
  rw [synchronize, dif_pos h]

theorem synchronize_of_not_atEnd {r : Reader} (h : r.atEnd = false) : r.synchronize =
    (r.advance.synchronize.1.or (if r.atBreak then some r.seen else none),
      r.advance.synchronize.2) := by
  rw [synchronize, dif_neg (by simp [h])]

/-- Synchronizing finds that the document breaks off in the last token of the statement. -/
theorem synchronize_fst (r : Reader) :
    r.synchronize.1 = r.toEnd.1.getLast?.filter (·.kind == .unterminated) := by
  induction r using toEnd_induction with
  | stop r h => simp [synchronize_of_atEnd h, toEnd_of_atEnd h]
  | token r h ih =>
    rw [synchronize_of_not_atEnd h, toEnd_of_not_atEnd h, ih]
    have hkind := r.seen_kind_eq_unterminated_iff
    cases hb : r.advance.toEnd.1 with
    | nil => cases hbreak : r.atBreak <;> simp [Option.filter, hkind, hbreak]
    | cons t ts =>
      have hbreak : r.atBreak = false := by
        cases hbreak : r.atBreak with
        | true => simp [toEnd_of_atEnd (atEnd_advance_of_atBreak hbreak)] at hb
        | false => rfl
      simp [hbreak]

theorem synchronize_snd (r : Reader) : r.synchronize.2 = r.toEnd.2.synchronize.2 := by
  induction r using toEnd_induction with
  | stop r h => rw [toEnd_of_atEnd h]
  | token r h ih => rw [synchronize_of_not_atEnd h, toEnd_of_not_atEnd h, ih]

/-! ### Within a statement -/

theorem toEnd_skip (r : Reader) (n : Nat) : (r.skip n).toEnd = (r.toEnd.1.drop n, r.toEnd.2) := by
  induction n generalizing r with
  | zero => rfl
  | succ n ih =>
    rw [skip]
    split
    · next h => simp [toEnd_of_atEnd h]
    · next h => simp [ih, toEnd_of_not_atEnd (by simpa using h)]

theorem synchronize_skip_snd (r : Reader) (n : Nat) :
    (r.skip n).synchronize.2 = r.synchronize.2 := by
  rw [synchronize_snd, toEnd_skip, ← synchronize_snd]

/-- **Wherever in a statement its end is looked for, the same is found** behind it, and that the
document breaks off if this was not passed over before. -/
theorem synchronize_skip {r : Reader} {n : Nat}
    (h : ∀ t ∈ r.toEnd.1.take n, t.kind ≠ .unterminated) :
    (r.skip n).synchronize = r.synchronize := by
  refine Prod.ext ?_ (r.synchronize_skip_snd n)
  have hsplit := List.take_append_drop n r.toEnd.1
  rw [synchronize_fst, synchronize_fst, toEnd_skip]
  conv_rhs => rw [← hsplit]
  cases hd : r.toEnd.1.drop n with
  | nil =>
    cases hlast : (r.toEnd.1.take n).getLast? with
    | none => simp [hlast]
    | some t => simp [hlast, Option.filter, h t (List.mem_of_getLast? hlast)]
  | cons t ts => simp [List.getLast?_append, List.getLast?_cons]

/-! ### Statements are portions -/

/-- The portion that a reader stands at. -/
def portion (r : Reader) : Portion :=
  if r.current.kind = .metaCommand then .metaCommand r.current
  else .statement r.toEnd.1 r.toEnd.2.current

/-- What comes of a statement is what comes of its portion, as reading it takes tokens from the front
of it. -/
theorem unlessBroken_conclude (r : Reader) {result : Except Fault (Option (Statement × List Token))}
    (hresult : ∀ s rest, result = .ok (some (s, rest)) → Passes r.toEnd.1 rest) :
    (r.conclude r.toEnd.1 r.toEnd.2.current result).1.unlessBroken
        (r.conclude r.toEnd.1 r.toEnd.2.current result).2.synchronize.1 =
      Attempt.settle r.toEnd.1 r.toEnd.2.current result := by
  match result with
  | .error f => rfl
  | .ok none =>
    show Outcome.skipped.unlessBroken r.synchronize.1 = _
    rw [synchronize_fst, Attempt.settle]
    cases r.toEnd.1.getLast? with
    | none => rfl
    | some t => by_cases hk : t.kind = .unterminated <;> simp [Option.filter, hk, Outcome.unlessBroken]
  | .ok (some (s, rest)) =>
    obtain ⟨used, hbody, -⟩ := hresult s rest rfl
    have hlength : r.toEnd.1.length - rest.length = used.length := by
      rw [hbody, List.length_append, Nat.add_sub_cancel]
    have htoEnd : (r.skip used.length).toEnd = (rest, r.toEnd.2) := by
      rw [toEnd_skip, hbody, List.drop_left]
    rw [conclude, hlength]
    cases rest with
    | nil =>
      have hend : (r.skip used.length).atEnd := (toEnd_eq_nil_iff _).1 (by rw [htoEnd])
      simp [hend, synchronize_of_atEnd, Outcome.unlessBroken, Attempt.settle]
    | cons t ts =>
      have hend : (r.skip used.length).atEnd = false := by
        have hne : (r.skip used.length).toEnd.1 ≠ [] := by simp [htoEnd]
        simpa [toEnd_eq_nil_iff] using hne
      have hseen : (r.skip used.length).seen = t := by
        rw [toEnd_of_not_atEnd hend] at htoEnd
        exact (List.cons.inj (congrArg Prod.fst htoEnd)).1
      simp [hend, hseen, Outcome.unlessBroken, Attempt.settle, Rule.unexpected]

/-- An attempt at a statement is an attempt at its portion. -/
theorem attempt_fst (r : Reader) : r.attempt.1 = .ofPortion r.portion := by
  unfold attempt portion
  split
  · rfl
  · have hlead : r.seen = r.toEnd.1.headD r.toEnd.2.current := by
      cases h : r.atEnd with
      | true => simp [toEnd_of_atEnd h, seen_of_atEnd h]
      | false => simp [toEnd_of_not_atEnd h]
    have hsound : (Reading.ofTokens r.toEnd.1 r.toEnd.2.current).Sound (fun _ => True) r.toEnd.1 :=
      Reading.ofTokens_sound _ fun _ _ => trivial
    have houtcome := r.unlessBroken_conclude fun s rest h => (hsound h).2
    simp only [Attempt.ofPortion, ← hlead, houtcome]

theorem exists_conclude_snd (r : Reader) (body : List Token) (stop : Token)
    (result : Except Fault (Option (Statement × List Token))) :
    ∃ n, (r.conclude body stop result).2 = r.skip n := by
  match result with
  | .error _ => exact ⟨0, rfl⟩
  | .ok none => exact ⟨0, rfl⟩
  | .ok (some (s, rest)) =>
    rw [conclude]
    split <;> exact ⟨_, rfl⟩

theorem attempt_snd {r : Reader} (h : r.current.kind ≠ .metaCommand) :
    r.attempt.2 = r.synchronize.2 := by
  rw [attempt, if_neg h]
  obtain ⟨n, hn⟩ := r.exists_conclude_snd r.toEnd.1 r.toEnd.2.current
    (Reading.ofTokens r.toEnd.1 r.toEnd.2.current).result
  exact (congrArg (·.synchronize.2) hn).trans (r.synchronize_skip_snd n)

/-- What a reader stands at is the first portion of what it sees, and the rest is seen behind. -/
theorem portion_stream (r : Reader) : r.stream.portion = (r.portion, r.attempt.2.stream) := by
  by_cases hm : r.current.kind = .metaCommand
  · have hdone : r.isDone = false := by simp [isDone, Token.isEof, hm]
    have hseen : r.seen = r.current := seen_of_not_isIllegal (by rw [hm]; rfl)
    rw [stream_of_not_isDone hdone, hseen, TokenStream.portion_metaCommand hm, portion, if_pos hm,
      attempt, if_pos hm]
  · have hhead : ∀ t ∈ r.toEnd.1.head?, t.kind ≠ .metaCommand := by
      intro t ht
      cases hend : r.atEnd with
      | true => simp [toEnd_of_atEnd hend] at ht
      | false =>
        rw [toEnd_of_not_atEnd hend] at ht
        cases ht
        exact (r.seen_kind_eq_iff (k := .metaCommand) rfl).not.2 hm
    rw [portion, if_neg hm, attempt_snd hm, synchronize_snd, synchronize_of_atEnd r.atEnd_toEnd,
      stream_eq_toEnd]
    by_cases hs : r.toEnd.2.current.kind = .semicolon
    · have hdone : r.toEnd.2.isDone = false := by simp [isDone, Token.isEof, hs]
      rw [if_pos hs, stream_of_not_isDone hdone, seen_of_atEnd r.atEnd_toEnd]
      exact TokenStream.portion_semicolon _ _ hhead r.isBody_of_mem_toEnd hs
    · have hdone : r.toEnd.2.isDone :=
        (Bool.or_eq_true_iff.1 r.atEnd_toEnd).resolve_left (by simpa using hs)
      rw [if_neg hs, stream_of_isDone hdone, List.append_nil]
      exact TokenStream.portion_of_isBody hhead r.isBody_of_mem_toEnd

/-- **One statement of a reader is one portion** of what it sees. -/
theorem attempt_eq (r : Reader) :
    r.attempt.1 = r.stream.attempt.1 ∧ r.attempt.2.stream = r.stream.attempt.2 := by
  rw [TokenStream.attempt, portion_stream]
  exact ⟨r.attempt_fst, rfl⟩

/-- **A reader reads the portions of what it sees**, each by itself. -/
theorem attempts_eq (r : Reader) : r.attempts = r.stream.attempts := by
  induction hb : r.budget using Nat.strongRecOn generalizing r with
  | _ b ih =>
    subst hb
    rw [attempts]
    cases h : r.isDone with
    | true => simp [stream_of_isDone h, TokenStream.attempts]
    | false =>
      have hne : r.stream.tokens ≠ [] := by simp [stream_of_not_isDone h]
      obtain ⟨hfirst, hbehind⟩ := r.attempt_eq
      rw [dif_neg (by simp), ih _ (budget_attempt_lt h) _ rfl, hfirst, hbehind,
        TokenStream.attempts, TokenStream.attempts, TokenStream.portions_of_ne_nil hne, List.map_cons]
      rfl

end Reader

/-- **Reading a document is reading the portions of its tokens**, each by itself. -/
theorem Document.ofText_eq (name text : String) :
    ofText name text = ⟨name, (TokenStream.ofText text).primed.attempts⟩ := by
  rw [ofText, Reader.attempts_eq, Reader.stream_ofText]

end SchemaPatch
