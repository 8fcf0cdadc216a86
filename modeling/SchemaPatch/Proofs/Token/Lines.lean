import SchemaPatch.Proofs.Token.Lexing

/-!
# Lines come in order

A lexer never goes back: each token starts on the line on which the one before it starts, or on a
later one, and so does the end of the text (`TokenStream.lines_ordered`).
-/

namespace SchemaPatch

namespace Lexer

/-- A token starts on the line of its lexer or behind it, and the lexer goes on from there. -/
theorem line_le_next (l : Lexer) : l.line ≤ l.next.1.line ∧ l.next.1.line ≤ l.next.2.line := by
  unfold next
  split
  · exact ⟨Nat.le_refl _, Nat.le_refl _⟩
  · split
    · exact ⟨Nat.le_add_right .., Nat.le_add_right ..⟩
    · exact ⟨Nat.le_add_right .., Nat.le_refl _⟩
    · exact ⟨Nat.le_add_right .., Nat.le_add_right ..⟩

/-- The lines of a lexer and of all that it hands out come in order. -/
theorem lines_drain (l : Lexer) :
    (l.line :: (l.drain.1 ++ [l.drain.2]).map Token.line).Pairwise (· ≤ ·) := by
  induction l using drain_induction with
  | stop l he =>
    rw [drain_of_isEof he]
    simpa using l.line_le_next.1
  | token l he ih =>
    obtain ⟨hfirst, hbehind⟩ := l.line_le_next
    obtain ⟨hle, hordered⟩ := List.pairwise_cons.1 ih
    have hnext : ∀ line ∈ (l.next.2.drain.1 ++ [l.next.2.drain.2]).map Token.line,
        l.next.1.line ≤ line := fun line hline => Nat.le_trans hbehind (hle line hline)
    rw [drain_of_not_isEof he]
    refine List.pairwise_cons.2 ⟨?_, List.pairwise_cons.2 ⟨hnext, hordered⟩⟩
    exact List.forall_mem_cons.2 ⟨hfirst, fun line hline => Nat.le_trans hfirst (hnext line hline)⟩

end Lexer

/-- The tokens of a text and its end come in the order of their lines. -/
theorem TokenStream.lines_ordered (text : String) :
    ((ofText text).tokens ++ [(ofText text).stop]).Pairwise fun t u => t.line ≤ u.line :=
  List.pairwise_map.1 (List.pairwise_cons.1 (Lexer.ofText text).lines_drain).2

end SchemaPatch
