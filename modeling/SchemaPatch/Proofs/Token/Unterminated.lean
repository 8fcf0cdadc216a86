import SchemaPatch.Proofs.Token.Trivia

/-!
# Lexemes that break off

A lexeme is unterminated only where a string, a quoted name or a string between dollar tags begins
that is never closed, and then it takes the whole text (`Lexeme.read_of_unterminated`).
-/

namespace SchemaPatch.Lexeme

/-- A text begins with a string or a quoted name that is never closed. -/
inductive Unclosed : List Char → Prop where
  /-- A string is never closed. -/
  | string {cs : List Char} : quotedString cs = none → Unclosed ('\'' :: cs)
  /-- A quoted name is never closed. -/
  | name {cs : List Char} : quotedName cs = none → Unclosed ('"' :: cs)
  /-- The dollar tag that a string begins with stands nowhere behind it. -/
  | dollarString {cs body : List Char} : (tag cs).2 = '$' :: body →
      ¬ ('$' :: (tag cs).1 ++ ['$']) <:+: body → Unclosed ('$' :: cs)

/-- A mark that stands nowhere in a text is not found, and only then. -/
theorem through_eq_none_iff {mark : List Char} (hmark : mark ≠ []) {cs : List Char} :
    through mark cs = none ↔ ¬ mark <:+: cs := by
  induction cs with
  | nil => simpa [through] using hmark
  | cons c cs ih =>
    rw [through, List.infix_cons_iff, not_or]
    split
    · next h => simp [List.isPrefixOf_iff_prefix.1 h]
    · next h => simp [ih, mt List.isPrefixOf_iff_prefix.2 h]

theorem ofScan_of_unterminated {kind : Token.Kind} {c : Char} {cs : List Char} {scan : Option Split}
    (hkind : kind ≠ .unterminated) (h : (ofScan kind c cs scan).kind = .unterminated) :
    scan = none := by
  cases scan with
  | none => rfl
  | some s => exact absurd h hkind

theorem dollarString_of_unterminated {cs : List Char} (h : (dollarString cs).kind = .unterminated) :
    Unclosed ('$' :: cs) ∧ dollarString cs = ⟨.unterminated, '$' :: cs, []⟩ := by
  rw [dollarString] at h ⊢
  split at h
  · next body hbody =>
    have hscan := ofScan_of_unterminated (by simp) h
    rw [hscan]
    rw [Option.map_eq_none_iff, through_eq_none_iff (by simp)] at hscan
    exact ⟨.dollarString hbody hscan, rfl⟩
  · cases h

/-- **What breaks off is a string or a quoted name that is never closed, and takes the whole text.** -/
theorem read_of_unterminated {c : Char} {cs : List Char} (h : (read c cs).kind = .unterminated) :
    Unclosed (c :: cs) ∧ read c cs = ⟨.unterminated, c :: cs, []⟩ := by
  have hother : (if c.isDigit then number c cs
      else if beginsName c then
        ⟨wordKind (c :: cs.takeWhile inName), c :: cs.takeWhile inName, cs.dropWhile inName⟩
      else single .stray c cs).kind ≠ .unterminated := by
    split
    · rw [number]
      split <;> simp
    · split
      · simp only [wordKind]
        split <;> simp
      · simp [single]
  unfold read at h ⊢
  split at h
  case h_10 => split at h <;> cases h
  case h_11 => split at h <;> cases h
  case h_12 =>
    have hscan := ofScan_of_unterminated (by simp) h
    exact ⟨.string hscan, by rw [hscan]; rfl⟩
  case h_13 =>
    have hscan := ofScan_of_unterminated (by simp) h
    exact ⟨.name hscan, by rw [hscan]; rfl⟩
  case h_14 => exact dollarString_of_unterminated h
  case h_15 => split at h <;> cases h
  case h_16 => exact absurd h hother
  all_goals cases h

/-- What breaks off takes all the rest. -/
theorem rest_of_unterminated {c : Char} {cs : List Char} (h : (read c cs).kind = .unterminated) :
    (read c cs).rest = [] := by
  rw [(read_of_unterminated h).2]

end SchemaPatch.Lexeme
