import SchemaPatch.Proofs.Token.Restart

/-!
# Tokens one by one

A lexer can be asked for a token again and again. It hands out the tokens that draining it gives, one
by one, and behind them the end, which stays the same however often it is asked for
(`Lexer.isEof_nth_iff`, `Lexer.nth_of_isEof`).
-/

namespace SchemaPatch

namespace Lexer

/-- A lexer that has handed out `n` tokens. -/
def behind (l : Lexer) : Nat → Lexer
  | 0 => l
  | n + 1 => l.next.2.behind n

/-- The token that a lexer hands out behind `n` others. -/
def nth (l : Lexer) (n : Nat) : Token := (l.behind n).next.1

/-- A lexer that hands out the end is finished, on the line of the end. -/
theorem next_of_isEof {l : Lexer} (h : l.next.1.isEof) :
    ∃ rest line, l.next = (.eof line, ⟨rest, line, true⟩) := by
  unfold next at h ⊢
  split at h
  · next hfinished => exact ⟨l.rest, l.line, by rw [if_pos hfinished, ← hfinished]⟩
  · next hnot =>
    rw [if_neg hnot]
    split at h
    · cases h
    · exact ⟨[], _, rfl⟩
    · next c cs _ =>
      have hkind : (Lexeme.read c cs).kind = .endOfInput := by simpa [Token.isEof] using h
      exact absurd hkind (Lexeme.kind_read_ne c cs)

/-- Behind the end there is nothing but the same end. -/
theorem drain_next_of_isEof {l : Lexer} (h : l.next.1.isEof) : l.next.2.drain = ([], l.next.1) := by
  obtain ⟨rest, line, hnext⟩ := next_of_isEof h
  rw [hnext, drain_finished]

/-- A lexer hands out its tokens one by one, and then the end. -/
theorem nth_eq (l : Lexer) (n : Nat) : l.nth n = l.drain.1[n]?.getD l.drain.2 := by
  induction n generalizing l with
  | zero =>
    rw [nth, behind, drain_eq]
    split <;> rfl
  | succ n ih =>
    show l.next.2.nth n = _
    rw [ih]
    cases he : l.next.1.isEof with
    | true => simp [drain_of_isEof he, drain_next_of_isEof he]
    | false =>
      rw [drain_of_not_isEof he]
      rfl

/-- No token before the end is the end. -/
theorem isEof_of_mem_drain {l : Lexer} {t : Token} (ht : t ∈ l.drain.1) : t.isEof = false := by
  induction l using drain_induction with
  | stop l he => simp [drain_of_isEof he] at ht
  | token l he ih =>
    rw [drain_of_not_isEof he, List.mem_cons] at ht
    rcases ht with rfl | ht
    · exact he
    · exact ih ht

/-- The end is handed out behind all tokens and not before, and always as the same. -/
theorem isEof_nth_iff (l : Lexer) (n : Nat) : (l.nth n).isEof ↔ l.drain.1.length ≤ n := by
  rw [nth_eq]
  by_cases hn : l.drain.1.length ≤ n
  · obtain ⟨line, hline⟩ := l.exists_drain_eq_eof
    simp [hn, hline, Token.isEof, Token.eof]
  · have hlt := Nat.lt_of_not_le hn
    have heof := isEof_of_mem_drain (List.getElem_mem hlt)
    simp [heof, hlt]

theorem nth_of_isEof {l : Lexer} {n : Nat} (h : (l.nth n).isEof) : l.nth n = l.drain.2 := by
  rw [nth_eq, List.getElem?_eq_none ((l.isEof_nth_iff n).1 h), Option.getD_none]

end Lexer

end SchemaPatch
