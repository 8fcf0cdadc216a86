import SchemaPatch.Proofs.Token.Lexing
import SchemaPatch.Proofs.Token.Unterminated

/-!
# Nothing of a text is lost

The tokens of a text give the text back: it is their literals in order, with blanks and comments in
between, and each token knows the line on which it starts (`TokenStream.covers_toList`). The last
token is the end of the text, or it is the first one that breaks off and has all the rest for its
literal.
-/

namespace SchemaPatch

/-- The line on which a text ends, counted from one. -/
def lineOf (before : List Char) : Nat := 1 + before.count '\n'

/-- Tokens give back a text that stands behind another one. -/
inductive Covers : List Char → List Char → List Token → Prop where
  /-- Only blanks and comments are left, and the end of the text is the last token. -/
  | stop {before trivia : List Char} : Gap.Trivia trivia [] →
      Covers before trivia [⟨.endOfInput, "", lineOf (before ++ trivia)⟩]
  /-- Behind blanks and comments something begins that is never closed. It takes all the rest and is
  the last token. -/
  | unterminated {before trivia rest : List Char} : Gap.Trivia trivia rest →
      Gap.Unclosed rest ∨ Lexeme.Unclosed rest →
      Covers before (trivia ++ rest)
        [⟨.unterminated, String.ofList rest, lineOf (before ++ trivia)⟩]
  /-- Behind blanks and comments stands the literal of the first token, and the other tokens give back
  what is behind it. -/
  | token {before trivia literal rest : List Char} {kind : Token.Kind} {tokens : List Token} :
      Gap.Trivia trivia (literal ++ rest) → literal ≠ [] → kind ≠ .endOfInput →
      kind ≠ .unterminated → Covers (before ++ trivia ++ literal) rest tokens →
      Covers before (trivia ++ literal ++ rest)
        (⟨kind, String.ofList literal, lineOf (before ++ trivia)⟩ :: tokens)

/-! ### Lines -/

theorem lineOf_append (before cs : List Char) :
    lineOf (before ++ cs) = lineOf before + Lexer.lineFeeds cs := by
  rw [lineOf, List.count_append, ← Nat.add_assoc]
  rfl

namespace TokenStream

/-- A token that breaks off is the last one. -/
theorem toList_of_unterminated {t : Token} (ht : t.kind = .unterminated) (stop : Token) :
    toList ⟨[t], stop⟩ = [t] := by
  simp [toList, isTruncated, ht]

/-- The tokens behind one that does not break off end as they would by themselves. -/
theorem toList_cons {t : Token} (ht : t.kind ≠ .unterminated) (tokens : List Token) (stop : Token) :
    toList ⟨t :: tokens, stop⟩ = t :: toList ⟨tokens, stop⟩ := by
  have hlast : isTruncated ⟨t :: tokens, stop⟩ = isTruncated ⟨tokens, stop⟩ := by
    cases tokens with
    | nil => simp [isTruncated, ht]
    | cons u tokens => simp [isTruncated]
  simp only [toList, hlast]
  split <;> rfl

/-- What a lexer hands out gives back the rest of its text, if it knows the line on which it is. -/
theorem covers_drain (before cs : List Char) : Covers before cs (toList
    ⟨(Lexer.mk cs (lineOf before) false).drain.1, (Lexer.mk cs (lineOf before) false).drain.2⟩) := by
  induction hn : cs.length using Nat.strongRecOn generalizing before cs with
  | _ n ih =>
    subst hn
    have htext := Gap.text_read cs
    have hsound := Gap.sound_read cs
    cases hg : Gap.read cs with
    | unclosed trivia comment =>
      rw [hg] at htext hsound
      obtain ⟨htrivia, hcomment⟩ := hsound
      rw [Lexer.drain_of_unclosed _ hg, toList_of_unterminated rfl, ← lineOf_append, ← htext]
      exact .unterminated htrivia (.inl hcomment)
    | closed trivia rest =>
      rw [hg] at htext hsound
      cases rest with
      | nil =>
        rw [Gap.text, List.append_nil] at htext
        rw [Lexer.drain_of_end _ hg, ← lineOf_append, ← htext]
        exact .stop hsound
      | cons c rest =>
        have htrivia : Gap.Trivia trivia (c :: rest) := hsound
        have hlexeme := Lexeme.text_read c rest
        have hhead := Lexeme.head_read c rest
        have hlength := Lexeme.length_rest_read c rest
        by_cases hkind : (Lexeme.read c rest).kind = .unterminated
        · obtain ⟨hunclosed, hwhole⟩ := Lexeme.read_of_unterminated hkind
          rw [Lexer.drain_of_lexeme _ hg hwhole rfl, ← lineOf_append, ← htext, beq_self_eq_true,
            Lexer.drain_finished, toList_of_unterminated rfl]
          exact .unterminated htrivia (.inr hunclosed)
        · rw [Lexer.drain_of_lexeme _ hg rfl rfl, toList_cons hkind, Lexeme.lineFeeds_of_ne hkind,
            beq_false_of_ne hkind, ← lineOf_append, ← lineOf_append, ← htext, Gap.text, ← hlexeme,
            Lexeme.text, ← List.append_assoc]
          refine .token ?_ ?_ (Lexeme.kind_read_ne c rest) hkind (ih _ ?_ _ _ rfl)
          · rwa [← Lexeme.text, hlexeme]
          · rintro hnil
            rw [hnil] at hhead
            cases hhead
          · have hle := congrArg List.length htext
            simp only [Gap.text, List.length_append] at hle
            omega

/-- **The tokens of a text give back the text**, with nothing but blanks and comments in between. -/
theorem covers_toList (text : String) : Covers [] text.toList (ofText text).toList :=
  covers_drain [] text.toList

end TokenStream

end SchemaPatch
