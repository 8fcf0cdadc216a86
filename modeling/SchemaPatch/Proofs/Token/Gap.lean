import SchemaPatch.Proofs.Token.Symbol
import SchemaPatch.Token.Lexeme

/-!
# Reading gaps

The gap in front of a text is read piece by piece: blanks, then a comment, and so on. Apart from
blanks it begins as `Gap.comments` says (`Gap.read_eq`), so a blank or a comment in front of a text
only adds to the gap, and a text that begins with neither has none.
-/

namespace SchemaPatch.Gap

theorem after_after (f g : List Char) (x : Gap) : (x.after g).after f = x.after (f ++ g) := by
  cases x <;> simp [after]

@[simp] theorem after_nil (x : Gap) : x.after [] = x := by
  cases x <;> rfl

/-- The gap in front of a text that does not begin with a blank. -/
def comments : List Char → Gap
  | '-' :: '-' :: line =>
    (read (line.dropWhile inLine)).after ('-' :: '-' :: line.takeWhile inLine)
  | '/' :: '*' :: body =>
    match blockComment 1 body with
    | some (comment, rest) => (read rest).after ('/' :: '*' :: comment)
    | none => .unclosed [] ('/' :: '*' :: body)
  | rest => .closed [] rest

/-- A gap is blanks and what follows them. -/
theorem read_eq (cs : List Char) :
    read cs = (comments (cs.dropWhile isBlank)).after (cs.takeWhile isBlank) := by
  rw [read]
  split
  · next line h => rw [h, comments, after_after]
  · next body h =>
    rw [h, comments]
    split
    · next comment rest hb => rw [hb, after_after]
    · next hb => rw [hb, after, List.append_nil]
  · next hline hbody =>
    rw [comments.eq_def]
    split
    · next line h => exact absurd h (hline line)
    · next body h => exact absurd h (hbody body)
    · rw [after, List.append_nil]

theorem read_blank {b : Char} (hb : isBlank b) (cs : List Char) :
    read (b :: cs) = (read cs).after [b] := by
  rw [read_eq (b :: cs), read_eq cs, List.takeWhile_cons_of_pos hb, List.dropWhile_cons_of_pos hb,
    after_after, List.singleton_append]

theorem read_of_not_isBlank {c : Char} (hc : isBlank c = false) (cs : List Char) :
    read (c :: cs) = comments (c :: cs) := by
  rw [read_eq, List.takeWhile_cons_of_neg (by simp [hc]), List.dropWhile_cons_of_neg (by simp [hc]),
    after_nil]

/-- A line comment and what follows it. -/
theorem read_lineComment (line : List Char) : read ('-' :: '-' :: line) =
    (read (line.dropWhile inLine)).after ('-' :: '-' :: line.takeWhile inLine) := by
  rw [read_of_not_isBlank (by decide), comments]

/-- Whether two characters begin a comment. -/
def opensComment (c d : Char) : Bool := (c == '-' && d == '-') || (c == '/' && d == '*')

/-- Before anything but a blank or a comment there is no gap. -/
theorem read_lexeme {c : Char} {cs : List Char} (hc : isBlank c = false)
    (h : cs.head?.any (opensComment c) = false) : read (c :: cs) = .closed [] (c :: cs) := by
  rw [read_of_not_isBlank hc, comments.eq_def]
  split
  · next line heq =>
    obtain ⟨rfl, rfl⟩ := List.cons.inj heq
    simp [opensComment] at h
  · next body heq =>
    obtain ⟨rfl, rfl⟩ := List.cons.inj heq
    simp [opensComment] at h
  · rfl

end SchemaPatch.Gap
