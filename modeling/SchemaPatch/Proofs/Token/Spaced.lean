import SchemaPatch.Proofs.Token.Calls

/-!
# Texts without comments

A text that is nothing but the literals of its tokens and spaces between them has no comment in it:
wherever a lexer stands in it, it passes over spaces only (`Lexer.trivia_of_spaced`). The proof counts
the characters that are no spaces. The tokens have all of them, so none is left for what lies between.
-/

namespace SchemaPatch

/-- A text is the literals of symbols in order, with nothing but spaces between them. -/
inductive Spaced : List Symbol → List Char → Prop where
  /-- There are no symbols. -/
  | nil : Spaced [] []
  /-- A space comes first. -/
  | space {xs : List Symbol} {cs : List Char} : Spaced xs cs → Spaced xs (' ' :: cs)
  /-- The literal of the first symbol comes first. -/
  | symbol (x : Symbol) {xs : List Symbol} {cs : List Char} : Spaced xs cs →
      Spaced (x :: xs) (x.literal.toList ++ cs)

/-- How many characters of a text are no spaces. -/
def solid (cs : List Char) : Nat := cs.countP (· ≠ ' ')

theorem solid_append (cs ds : List Char) : solid (cs ++ ds) = solid cs + solid ds :=
  List.countP_append

/-- How many characters of tokens are no spaces. -/
def Token.solidAll (ts : List Token) : Nat := solid (ts.flatMap fun t => t.literal.toList)

@[simp] theorem Token.solidAll_nil : solidAll [] = 0 := rfl

@[simp] theorem Token.solidAll_cons (t : Token) (ts : List Token) :
    solidAll (t :: ts) = solid t.literal.toList + solidAll ts := by
  simp [solidAll, solid_append]

theorem Spaced.solid_eq {ts : List Token} {cs : List Char} (h : Spaced (ts.map Token.symbol) cs) :
    solid cs = Token.solidAll ts := by
  generalize hxs : ts.map Token.symbol = xs at h
  induction h generalizing ts with
  | nil =>
    rw [List.map_eq_nil_iff.1 hxs]
    rfl
  | space _ ih => simpa [solid] using ih hxs
  | symbol x _ ih =>
    obtain ⟨t, ts, rfl, rfl, hts⟩ := List.map_eq_cons_iff.1 hxs
    rw [solid_append, ih hts, Token.solidAll_cons]
    rfl

/-- The blanks and comments of a gap. -/
def Gap.trivia : Gap → List Char
  | closed trivia _ => trivia
  | unclosed trivia _ => trivia

namespace Lexer

/-- What a lexer has before it is a gap, a token and what it leaves. -/
theorem rest_eq {l : Lexer} (h : l.finished = false) :
    (Gap.read l.rest).trivia ++ (l.next.1.literal.toList ++ l.next.2.rest) = l.rest := by
  obtain ⟨rest, line, finished⟩ := l
  obtain rfl : finished = false := h
  have htext := Gap.text_read rest
  cases hg : Gap.read rest with
  | unclosed trivia comment =>
    rw [hg, Gap.text] at htext
    rw [next_of_unclosed line hg]
    simpa [hg, Gap.trivia] using htext
  | closed trivia cs =>
    rw [hg, Gap.text] at htext
    cases cs with
    | nil =>
      rw [next_of_end line hg]
      simpa [hg, Gap.trivia, Token.eof] using htext
    | cons c cs =>
      have hlexeme := Lexeme.text_read c cs
      rw [Lexeme.text] at hlexeme
      rw [next_of_lexeme line hg rfl]
      simpa [hg, Gap.trivia, hlexeme] using htext

theorem solid_rest {l : Lexer} (h : l.finished = false) : solid l.rest =
    solid (Gap.read l.rest).trivia + (solid l.next.1.literal.toList + solid l.next.2.rest) := by
  rw [← solid_append, ← solid_append, rest_eq h]

/-- A lexer that hands out something else than the end was not finished. -/
theorem not_finished_of_isEof {l : Lexer} (h : l.next.1.isEof = false) : l.finished = false := by
  cases hf : l.finished with
  | false => rfl
  | true => simp [next, hf, Token.isEof, Token.eof] at h

/-- The tokens are of the text. -/
theorem solidAll_drain_le (l : Lexer) : Token.solidAll l.drain.1 ≤ solid l.rest := by
  induction l using drain_induction with
  | stop l he =>
    rw [drain_of_isEof he]
    exact Nat.zero_le _
  | token l he ih =>
    have hsolid := solid_rest (not_finished_of_isEof he)
    rw [drain_of_not_isEof he, Token.solidAll_cons]
    omega

/-- The tokens that a lexer is to hand out have all the characters before it that are no spaces. -/
def IsTight (l : Lexer) : Prop := l.finished = false → solid l.rest = Token.solidAll l.drain.1

/-- Then the gap before the first one has none of them. -/
theorem IsTight.solid_trivia {l : Lexer} (h : l.IsTight) (hf : l.finished = false) :
    solid (Gap.read l.rest).trivia = 0 := by
  have htight := h hf
  have hsolid := solid_rest hf
  have hle := solidAll_drain_le l.next.2
  cases he : l.next.1.isEof with
  | true =>
    rw [drain_of_isEof he, Token.solidAll_nil] at htight
    omega
  | false =>
    rw [drain_of_not_isEof he, Token.solidAll_cons] at htight
    omega

/-- And so it goes on. -/
theorem IsTight.next {l : Lexer} (h : l.IsTight) : l.next.2.IsTight := by
  cases he : l.next.1.isEof with
  | true =>
    obtain ⟨rest, line, hnext⟩ := next_of_isEof he
    rw [hnext]
    exact fun hf => by cases hf
  | false =>
    intro _
    have hf := not_finished_of_isEof he
    have htight := h hf
    have hsolid := solid_rest hf
    have hgap := h.solid_trivia hf
    rw [drain_of_not_isEof he, Token.solidAll_cons] at htight
    omega

theorem IsTight.behind {l : Lexer} (h : l.IsTight) (n : Nat) : (l.behind n).IsTight := by
  induction n generalizing l with
  | zero => exact h
  | succ n ih => exact ih h.next

/-- **A lexer passes over spaces only in a text that is its tokens with spaces between them**, wherever
it stands in it. -/
theorem trivia_of_spaced {l : Lexer} (h : Spaced (l.drain.1.map Token.symbol) l.rest) (n : Nat)
    (hf : (l.behind n).finished = false) :
    ∀ c ∈ (Gap.read (l.behind n).rest).trivia, c = ' ' := by
  have htight : l.IsTight := fun _ => h.solid_eq
  have hnone := (htight.behind n).solid_trivia hf
  rw [solid, List.countP_eq_zero] at hnone
  simpa using hnone

end Lexer

end SchemaPatch
