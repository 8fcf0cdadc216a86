import SchemaPatch.Proofs.Token.Calls
import SchemaPatch.Proofs.Token.Lossless

/-!
# The line of the end

A lexer that has handed out all tokens of a text hands out the end of it, however often it is asked,
and always on the same line. This is the line on which the text ends, but for a text that breaks off in a
string between dollar tags: the line feeds of that are not counted, and the end is on the line on which
the string begins (`Lexer.line_nth`).
-/

namespace SchemaPatch

namespace Token

/-- Whether a token is a string between dollar tags that is never closed. -/
def isUnclosedDollarString (t : Token) : Bool :=
  t.kind == .unterminated && t.literal.toList.head? == some '$'

/-- How many lines a token moves the line count on. -/
def lineFeeds (t : Token) : Nat :=
  if t.isUnclosedDollarString then 0 else Lexer.lineFeeds t.literal.toList

end Token

namespace Lexer

/-- The line count goes on behind a token by the lines of this. -/
theorem line_next (l : Lexer) : l.next.2.line = l.next.1.line + l.next.1.lineFeeds := by
  unfold next
  split
  · rfl
  · split
    · next trivia comment hg =>
      have hsound := Gap.sound_read l.rest
      rw [hg] at hsound
      obtain ⟨-, body, rfl, -⟩ := hsound
      simp [Token.lineFeeds, Token.isUnclosedDollarString]
    · rfl
    · simp [Token.lineFeeds, Token.isUnclosedDollarString, Lexeme.lineFeeds, lineFeeds]

/-- A text that breaks off ends where the line count is behind its last token. -/
theorem line_drain {l : Lexer} {t : Token} (ht : l.drain.1.getLast? = some t)
    (hk : t.kind = .unterminated) : l.drain.2.line = t.line + t.lineFeeds := by
  induction l using drain_induction with
  | stop l he => simp [drain_of_isEof he] at ht
  | token l he ih =>
    rw [drain_of_not_isEof he] at ht ⊢
    cases hlast : l.next.2.drain.1.getLast? with
    | none =>
      obtain rfl : l.next.1 = t := by simpa [hlast, List.getLast?_cons] using ht
      rw [drain_next_of_unterminated hk, ← line_next]
      rfl
    | some u =>
      obtain rfl : u = t := by simpa [hlast, List.getLast?_cons] using ht
      exact ih hlast

end Lexer

/-- The last of the tokens that give back a text ends where the text does. -/
theorem Covers.line_getLast {before cs : List Char} {tokens : List Token}
    (h : Covers before cs tokens) : ∃ t, tokens.getLast? = some t ∧
      t.line + Lexer.lineFeeds t.literal.toList = lineOf (before ++ cs) := by
  induction h with
  | stop _ => exact ⟨_, rfl, rfl⟩
  | @unterminated before trivia rest _ _ =>
    refine ⟨⟨.unterminated, String.ofList rest, lineOf (before ++ trivia)⟩, rfl, ?_⟩
    rw [← List.append_assoc, lineOf_append (before ++ trivia), String.toList_ofList]
  | token _ _ _ _ _ ih =>
    obtain ⟨t, hlast, hline⟩ := ih
    exact ⟨t, by simp [List.getLast?_cons, hlast], by simpa using hline⟩

namespace TokenStream

/-- The text breaks off in a string between dollar tags, which is the token. -/
def BreaksOffInDollarString (s : TokenStream) (t : Token) : Prop :=
  s.tokens.getLast? = some t ∧ t.isUnclosedDollarString

/-- The end of a text is on the line on which the text ends, or on which a string between dollar tags
begins that is never closed. -/
theorem line_stop (text : String) :
    (∀ t, (ofText text).BreaksOffInDollarString t → (ofText text).stop.line = t.line ∧
        t.line + Lexer.lineFeeds t.literal.toList = lineOf text.toList) ∧
      ((∀ t, ¬ (ofText text).BreaksOffInDollarString t) →
        (ofText text).stop.line = lineOf text.toList) := by
  obtain ⟨u, hlast, hu⟩ := (covers_drain [] text.toList).line_getLast
  replace hlast : (ofText text).toList.getLast? = some u := hlast
  rw [List.nil_append] at hu
  have hdrain : ∀ {t}, (ofText text).tokens.getLast? = some t → t.kind = .unterminated →
      (ofText text).stop.line = t.line + t.lineFeeds := fun ht hk => Lexer.line_drain ht hk
  cases htruncated : (ofText text).isTruncated with
  | true =>
    rw [toList, if_pos htruncated] at hlast
    have hkind : u.kind = .unterminated := by simpa [isTruncated, hlast] using htruncated
    have hstop := hdrain hlast hkind
    rw [Token.lineFeeds] at hstop
    refine ⟨fun t ht => ?_, fun hnone => ?_⟩
    · obtain rfl := Option.some.inj (hlast.symm.trans ht.1)
      rw [if_pos ht.2] at hstop
      exact ⟨hstop, hu⟩
    · rw [if_neg fun hdollar => hnone u ⟨hlast, hdollar⟩] at hstop
      rw [hstop, hu]
  | false =>
    rw [toList, if_neg (by simp [htruncated]), List.getLast?_concat, Option.some.injEq] at hlast
    subst hlast
    obtain ⟨line, heof⟩ := (Lexer.ofText text).exists_drain_eq_eof
    replace heof : (ofText text).stop = .eof line := heof
    refine ⟨fun t ht => ?_, fun _ => ?_⟩
    · have hkind : t.kind = .unterminated := by
        have := ht.2
        simp only [Token.isUnclosedDollarString, Bool.and_eq_true, beq_iff_eq] at this
        exact this.1
      simp [isTruncated, ht.1, hkind] at htruncated
    · rw [heof] at hu ⊢
      exact hu

end TokenStream

/-- **The end of a text is always on the same line.** A lexer hands out the end behind all tokens,
however often it is asked, and not before. It is on the line on which the text ends, unless the text
breaks off in a string between dollar tags that has a line feed in it: these are not counted, and the
end is on the line on which the string begins. -/
theorem Lexer.line_nth (text : String) (n : Nat) :
    let s := TokenStream.ofText text
    let t := (ofText text).nth n
    (t.isEof ↔ s.tokens.length ≤ n) ∧
      (t.isEof →
        (t.line = lineOf text.toList ↔
          ∀ u, s.BreaksOffInDollarString u → '\n' ∉ u.literal.toList) ∧
        ∀ u, s.BreaksOffInDollarString u → t.line = u.line) := by
  intro s t
  refine ⟨(ofText text).isEof_nth_iff n, fun ht => ?_⟩
  have hstop : t = s.stop := nth_of_isEof ht
  obtain ⟨hbroken, hnot⟩ := TokenStream.line_stop text
  rw [hstop]
  refine ⟨⟨fun hline u hu hfeed => ?_, fun hfeeds => ?_⟩, fun u hu => (hbroken u hu).1⟩
  · obtain ⟨hbegin, hend⟩ := hbroken u hu
    have hpos : 0 < lineFeeds u.literal.toList := List.count_pos_iff.2 hfeed
    have hsame : u.line = u.line + lineFeeds u.literal.toList :=
      hbegin.symm.trans (hline.trans hend.symm)
    omega
  · by_cases hdollar : ∃ u, s.BreaksOffInDollarString u
    · obtain ⟨u, hu⟩ := hdollar
      obtain ⟨hbegin, hend⟩ := hbroken u hu
      rw [lineFeeds, List.count_eq_zero.2 (hfeeds u hu)] at hend
      exact hbegin.trans hend
    · exact hnot fun u hu => hdollar ⟨u, hu⟩

/-- A string between dollar tags of two lines that is never closed: the end is on the first of them. -/
theorem Lexer.line_nth_dollarString : ((ofText "$$a\nb").nth 3).isEof ∧
    ((ofText "$$a\nb").nth 3).line = 1 ∧
      ((ofText "$$a\nb").nth 3).line ≠ lineOf "$$a\nb".toList := by
  obtain ⟨hend, hline⟩ := line_nth "$$a\nb" 3
  have heof := hend.2 (by decide +kernel)
  obtain ⟨hright, hbegin⟩ := hline heof
  have hbroken : (TokenStream.ofText "$$a\nb").BreaksOffInDollarString
      ⟨.unterminated, "$$a\nb", 1⟩ := ⟨by decide +kernel, by decide +kernel⟩
  exact ⟨heof, hbegin _ hbroken, fun h => hright.1 h _ hbroken (by decide)⟩

end SchemaPatch
