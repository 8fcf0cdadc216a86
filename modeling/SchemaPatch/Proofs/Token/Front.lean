import SchemaPatch.Proofs.Token.Lexing
import SchemaPatch.Proofs.Token.Quotation

/-!
# Tokens in front of a text

What a text is lexed to if it begins with a punctuation mark, a keyword or a name. A word ends where
the text goes on with a character that is no part of a token before it (`Apart`).
-/

namespace SchemaPatch

/-- Whether a character cannot go on with a word, a number, a name or a string before it. -/
def separates (c : Char) : Bool := !Lexeme.inName c && c != '.' && c != '"' && c != '\''

/-- A text does not go on with a token before it. -/
def Apart (cs : List Char) : Prop := ∀ c, cs.head? = some c → separates c

@[simp] theorem apart_nil : Apart [] := by simp [Apart]

@[simp] theorem apart_cons (c : Char) (cs : List Char) : Apart (c :: cs) ↔ separates c := by
  simp [Apart]

section Separators

@[simp] theorem separates_space : separates ' ' := by decide

@[simp] theorem separates_lineFeed : separates '\n' := by decide

@[simp] theorem separates_leftParen : separates '(' := by decide

@[simp] theorem separates_rightParen : separates ')' := by decide

@[simp] theorem separates_comma : separates ',' := by decide

@[simp] theorem separates_semicolon : separates ';' := by decide

@[simp] theorem separates_plus : separates '+' := by decide

@[simp] theorem separates_minus : separates '-' := by decide

@[simp] theorem separates_asterisk : separates '*' := by decide

@[simp] theorem separates_slash : separates '/' := by decide

@[simp] theorem separates_colon : separates ':' := by decide

end Separators

namespace Apart

variable {rest : List Char}

theorem not_inName (h : Apart rest) : ∀ c, rest.head? = some c → Lexeme.inName c = false := by
  intro c hc
  have := h c hc
  simp only [separates, Bool.and_eq_true, Bool.not_eq_true'] at this
  exact this.1.1.1

theorem not_isDigit (h : Apart rest) : ∀ c, rest.head? = some c → c.isDigit = false := by
  intro c hc
  apply Bool.eq_false_iff.2
  intro hd
  have hname := h.not_inName c hc
  simp [Lexeme.inName, Lexeme.inTag, isNumeral_of_isDigit hd] at hname

theorem head?_ne (h : Apart rest) {c : Char} (hc : separates c = false) : rest.head? ≠ some c :=
  fun heq => by simp [h c heq] at hc

end Apart

/-! ### Characters at the end of a scan -/

/-- What a scan takes of characters of one class is all of them up to a character of another. -/
theorem takeWhile_append {p : Char → Bool} {cs rest : List Char} (h : cs.all p)
    (hr : ∀ c, rest.head? = some c → p c = false) :
    (cs ++ rest).takeWhile p = cs ∧ (cs ++ rest).dropWhile p = rest := by
  have hall : ∀ c ∈ cs, p c := List.all_eq_true.1 h
  rw [List.takeWhile_append_of_pos hall, List.dropWhile_append_of_pos hall]
  cases rest with
  | nil => simp
  | cons c rest =>
    have hc := hr c rfl
    rw [List.takeWhile_cons_of_neg (by simp [hc]), List.dropWhile_cons_of_neg (by simp [hc]),
      List.append_nil]
    exact ⟨rfl, rfl⟩

/-! ### Punctuation -/

section Punctuation

variable (cs : List Char)

theorem symbols_single {kind : Token.Kind} {c : Char} (hc : isBlank c = false)
    (ho : ∀ d, Gap.opensComment c d = false) (hx : Lexeme.read c cs = Lexeme.single kind c cs)
    (hk : kind ≠ .unterminated) :
    symbols (c :: cs) = ⟨kind, String.ofList [c]⟩ :: symbols cs :=
  symbols_lexeme hc (by cases cs with | nil => rfl | cons d cs => exact ho d) hx hk

@[simp] theorem symbols_leftParen : symbols ('(' :: cs) = ⟨.leftParen, "("⟩ :: symbols cs :=
  symbols_single cs (by decide) (fun _ => rfl) rfl (by simp)

@[simp] theorem symbols_rightParen : symbols (')' :: cs) = ⟨.rightParen, ")"⟩ :: symbols cs :=
  symbols_single cs (by decide) (fun _ => rfl) rfl (by simp)

@[simp] theorem symbols_comma : symbols (',' :: cs) = ⟨.comma, ","⟩ :: symbols cs :=
  symbols_single cs (by decide) (fun _ => rfl) rfl (by simp)

@[simp] theorem symbols_semicolon : symbols (';' :: cs) = ⟨.semicolon, ";"⟩ :: symbols cs :=
  symbols_single cs (by decide) (fun _ => rfl) rfl (by simp)

@[simp] theorem symbols_equal : symbols ('=' :: cs) = ⟨.equal, "="⟩ :: symbols cs :=
  symbols_single cs (by decide) (fun _ => rfl) rfl (by simp)

@[simp] theorem symbols_plus : symbols ('+' :: cs) = ⟨.plus, "+"⟩ :: symbols cs :=
  symbols_single cs (by decide) (fun _ => rfl) rfl (by simp)

@[simp] theorem symbols_asterisk : symbols ('*' :: cs) = ⟨.asterisk, "*"⟩ :: symbols cs :=
  symbols_single cs (by decide) (fun _ => rfl) rfl (by simp)

@[simp] theorem symbols_typecast : symbols (':' :: ':' :: cs) = ⟨.typecast, "::"⟩ :: symbols cs :=
  symbols_lexeme (x := ⟨.typecast, [':', ':'], cs⟩) (by decide) (by simp [Gap.opensComment]) rfl
    (by simp)

variable {cs}

/-- A minus sign that does not begin a comment. -/
theorem symbols_minus (h : cs.head? ≠ some '-') :
    symbols ('-' :: cs) = ⟨.minus, "-"⟩ :: symbols cs := by
  refine symbols_lexeme (x := .single .minus '-' cs) (by decide) ?_ rfl (by simp [Lexeme.single])
  cases cs with
  | nil => rfl
  | cons c cs => simpa [Gap.opensComment] using h

/-- A slash that does not begin a comment. -/
theorem symbols_slash (h : cs.head? ≠ some '*') :
    symbols ('/' :: cs) = ⟨.slash, "/"⟩ :: symbols cs := by
  refine symbols_lexeme (x := .single .slash '/' cs) (by decide) ?_ rfl (by simp [Lexeme.single])
  cases cs with
  | nil => rfl
  | cons c cs => simpa [Gap.opensComment] using h

/-- A point that does not begin a number. -/
theorem symbols_dot (h : cs.head?.any Char.isDigit = false) :
    symbols ('.' :: cs) = ⟨.dot, "."⟩ :: symbols cs :=
  symbols_lexeme (x := .single .dot '.' cs) (by decide) (by cases cs <;> rfl)
    (by simp [Lexeme.read, h]) (by simp [Lexeme.single])

end Punctuation

/-! ### Words and names -/

namespace Lexeme

theorem bounds_of_isDigit {c : Char} (h : c.isDigit) : 48 ≤ c.toNat ∧ c.toNat ≤ 57 := by
  simp only [Char.isDigit, Bool.and_eq_true, decide_eq_true_eq, ge_iff_le,
    UInt32.le_iff_toNat_le] at h
  exact h

theorem not_isDigit_of_beginsName {c : Char} (h : beginsName c) : c.isDigit = false := by
  have hnone : ∀ n ∈ List.range' 48 10, beginsName (Char.ofNat n) = false := by decide +kernel
  apply Bool.eq_false_iff.2
  intro hd
  have hbounds := bounds_of_isDigit hd
  have := hnone _ (List.mem_range'_1.2 ⟨hbounds.1, by omega⟩)
  rw [Char.ofNat_toNat, h] at this
  cases this

/-- The code points of the blanks. -/
def blankCodes : List Nat :=
  [0x09, 0x0a, 0x0b, 0x0c, 0x0d, 0x20, 0x85, 0xa0, 0x1680, 0x2000, 0x2001, 0x2002, 0x2003, 0x2004,
   0x2005, 0x2006, 0x2007, 0x2008, 0x2009, 0x200a, 0x2028, 0x2029, 0x202f, 0x205f, 0x3000]

theorem mem_blankCodes {c : Char} (h : isBlank c) : c.toNat ∈ blankCodes := by
  simp only [isBlank, Bool.or_eq_true, Bool.and_eq_true, decide_eq_true_eq, beq_iff_eq] at h
  simp only [blankCodes, List.mem_cons, List.not_mem_nil, or_false]
  omega

theorem not_isBlank_of_beginsName {c : Char} (h : beginsName c) : isBlank c = false := by
  have hnone : ∀ n ∈ blankCodes, beginsName (Char.ofNat n) = false := by decide +kernel
  apply Bool.eq_false_iff.2
  intro hb
  have := hnone _ (mem_blankCodes hb)
  rw [Char.ofNat_toNat, h] at this
  cases this

theorem not_opensComment_of_beginsName {c : Char} (h : beginsName c) (d : Char) :
    Gap.opensComment c d = false := by
  apply Bool.eq_false_iff.2
  intro ho
  simp only [Gap.opensComment, Bool.or_eq_true, Bool.and_eq_true, beq_iff_eq] at ho
  rcases ho with ⟨rfl, -⟩ | ⟨rfl, -⟩
  · exact absurd h (by decide)
  · exact absurd h (by decide)

/-- A word is read up to where the name ends. -/
theorem read_word {c : Char} {w rest : List Char} (hc : beginsName c) (hw : w.all inName)
    (h : Apart rest) : read c (w ++ rest) = ⟨wordKind (c :: w), c :: w, rest⟩ := by
  obtain ⟨htake, hdrop⟩ := takeWhile_append hw h.not_inName
  unfold read
  split
  case h_16 => simp [not_isDigit_of_beginsName hc, hc, htake, hdrop]
  all_goals exact absurd hc (by decide)

end Lexeme

/-- Whether a text is one word. -/
def isWord (w : String) : Bool :=
  match w.toList with
  | c :: cs => Lexeme.beginsName c && cs.all Lexeme.inName
  | [] => false

theorem symbols_word {w : String} {kind : Token.Kind} {rest : List Char} (hw : isWord w)
    (hk : Lexeme.wordKind w.toList = kind) (h : Apart rest) :
    symbols (w.toList ++ rest) = ⟨kind, w⟩ :: symbols rest := by
  unfold isWord at hw
  cases hl : w.toList with
  | nil => simp [hl] at hw
  | cons c cs =>
    simp only [hl, Bool.and_eq_true] at hw
    have hread := Lexeme.read_word hw.1 hw.2 h
    have hkind : kind ≠ .unterminated := by
      rw [← hk, Lexeme.wordKind]
      split <;> simp
    rw [← hl, hk] at hread
    have ho : (cs ++ rest).head?.any (Gap.opensComment c) = false := by
      cases cs ++ rest with
      | nil => rfl
      | cons d ds => exact Lexeme.not_opensComment_of_beginsName hw.1 d
    rw [List.cons_append, symbols_lexeme (Lexeme.not_isBlank_of_beginsName hw.1) ho hread hkind]
    simp

/-- The symbol of a keyword as it is spelled in upper case. -/
def Symbol.word (k : Keyword) : Symbol := ⟨.keyword k, k.word⟩

@[simp] theorem Symbol.word_kind (k : Keyword) : (word k).kind = .keyword k := rfl

/-- The symbol of a name between double quotes. -/
def Symbol.name (n : Identifier) : Symbol := ⟨.identifier, n.sql⟩

@[simp] theorem Symbol.name_kind (n : Identifier) : (name n).kind = .identifier := rfl

theorem symbols_keyword (k : Keyword) {rest : List Char} (h : Apart rest) :
    symbols (k.word.toList ++ rest) = .word k :: symbols rest :=
  symbols_word (by cases k <;> decide) (by cases k <;> rfl) h

/-- Keywords with a space behind each. -/
def Keyword.phrase : List Keyword → String
  | [] => ""
  | k :: ks => k.word ++ " " ++ phrase ks

theorem symbols_phrase (ks : List Keyword) (rest : List Char) :
    symbols ((Keyword.phrase ks).toList ++ rest) = ks.map Symbol.word ++ symbols rest := by
  induction ks with
  | nil => rfl
  | cons k ks ih =>
    have hsplit : (Keyword.phrase (k :: ks)).toList ++ rest =
        k.word.toList ++ ' ' :: ((Keyword.phrase ks).toList ++ rest) := by
      simp [Keyword.phrase]
    rw [hsplit, symbols_keyword k (by simp), symbols_space, ih]
    rfl

/-- No comment begins with a quote. -/
theorem Gap.opensComment_quote (cs : List Char) : cs.head?.any (opensComment '"') = false := by
  cases cs <;> rfl

/-- A quoted name is one token unless a quote follows. -/
theorem symbols_name (n : Identifier) {rest : List Char} (h : rest.head? ≠ some '"') :
    symbols (n.sql.toList ++ rest) = .name n :: symbols rest := by
  rw [n.sql_toList_append,
    symbols_lexeme (by decide) (Gap.opensComment_quote _) (n.read_sql h) (by simp)]
  simp [Symbol.name]

end SchemaPatch
