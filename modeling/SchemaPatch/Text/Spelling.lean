/-!
# Quoted texts and numerals

How texts and whole numbers are spelled. A text between two quotes has a quote of its own written
twice; reading takes the outer quotes off and each pair of quotes for one. Whole numbers are written
without leading zeros and read with any number of them; a numeral that is read has ASCII digits only:
no sign, no point.

Main statements: a text that was quoted and a number that was written are read back
(`Quoted.unquote_quote`, `Decimal.toNat?_ofNat`).
-/

namespace SchemaPatch.Quoted

/-- Writes every `q` of a text twice. -/
def double (q : Char) : List Char → List Char
  | [] => []
  | c :: cs => if c = q then q :: q :: double q cs else c :: double q cs

/-- Reads each pair of `q` as one, from the left; a single `q` stays. -/
def undouble (q : Char) : List Char → List Char
  | [] => []
  | [c] => [c]
  | c :: d :: cs => if c = q ∧ d = q then q :: undouble q cs else c :: undouble q (d :: cs)

/-- The text between an opening and a closing `q`, which must be two different characters of the
text. -/
def inner? (q : Char) : List Char → Option (List Char)
  | [] => none
  | c :: cs => if c = q ∧ cs.getLast? = some q then some cs.dropLast else none

/-- Quotes a text with `q`. -/
def quote (q : Char) (cs : List Char) : List Char :=
  q :: (double q cs ++ [q])

/-- Reads a quoted text; `none` for a text without the outer quotes. -/
def unquote? (q : Char) (cs : List Char) : Option (List Char) :=
  (inner? q cs).map (undouble q)

/-! ### What was quoted is read back -/

theorem undouble_double (q : Char) (cs : List Char) : undouble q (double q cs) = cs := by
  induction cs with
  | nil => rfl
  | cons c cs ih =>
    by_cases h : c = q
    · simp [double, undouble, h, ih]
    · simp only [double, if_neg h]
      cases hd : double q cs with
      | nil => simp [hd, undouble] at ih; simp [undouble, ← ih]
      | cons d ds => rw [undouble, if_neg (fun hc => h hc.1), ← hd, ih]

theorem unquote_quote (q : Char) (cs : List Char) : unquote? q (quote q cs) = some cs := by
  simp [unquote?, quote, inner?, undouble_double]

end SchemaPatch.Quoted

namespace SchemaPatch.Decimal

/-- A natural number in digits. -/
def ofNat (n : Nat) : String := n.repr

/-- A whole number in digits, with a minus sign if it is negative. -/
def ofInt (n : Int) : String :=
  if n < 0 then "-" ++ ofNat n.natAbs else ofNat n.natAbs

/-- The number that a text of digits spells; `none` for any other text. -/
def toNat? (s : String) : Option Nat :=
  if s.toList ≠ [] ∧ s.toList.all Char.isDigit then some (Nat.ofDigitChars 10 s.toList 0) else none

theorem toNat?_ofNat (n : Nat) : toNat? (ofNat n) = some n := by
  have hlist : (ofNat n).toList = Nat.toDigits 10 n := Nat.toList_repr
  have hdigits : (Nat.toDigits 10 n).all Char.isDigit := List.all_eq_true.2 fun _ hc =>
    Nat.isDigit_of_mem_toDigits (by decide) (by decide) hc
  rw [toNat?, hlist, if_pos ⟨Nat.toDigits_ne_nil, hdigits⟩, Nat.ofDigitChars_ten_toDigits]

end SchemaPatch.Decimal
