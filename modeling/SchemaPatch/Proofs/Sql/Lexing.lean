import SchemaPatch.Proofs.Sql.Symbols
import SchemaPatch.Proofs.Sql.Readable
import SchemaPatch.Proofs.Token.Literal

/-!
# Canonical texts lex to their symbols

No two neighbouring tokens of a canonical text run together and no comment arises in it: it lexes to
the symbols that it is made of, whatever follows, as long as that does not go on with its last token.
For an expression this holds in any shape if its strings and numbers stand
(`Expression.symbols_sql`).
-/

namespace SchemaPatch

variable {rest : List Char}

/-! ### Lists and numbers -/

/-- Texts with commas between them lex to their symbols with commas between them. -/
theorem symbols_listed {α : Type} {sql : α → String} {spelled : α → List Symbol} {l : List α}
    (h : ∀ a ∈ l, ∀ rest, Apart rest → symbols ((sql a).toList ++ rest) = spelled a ++ symbols rest)
    (hr : Apart rest) :
    symbols ((listed (l.map sql)).toList ++ rest) = Symbol.listed (l.map spelled) ++ symbols rest := by
  induction l with
  | nil => rfl
  | cons a l ih =>
    obtain ⟨ha, hl⟩ := List.forall_mem_cons.1 h
    cases l with
    | nil => exact ha rest hr
    | cons b l =>
      have hsplit : (listed ((a :: b :: l).map sql)).toList ++ rest =
          (sql a).toList ++ ',' :: ' ' :: ((listed ((b :: l).map sql)).toList ++ rest) := by
        simp [listed]
      rw [hsplit, ha _ (by simp), symbols_comma, symbols_space, ih hl]
      simp [Symbol.listed]

/-- A number without a sign stands. -/
theorem Symbol.stands_number (n : Nat) : (number n).Stands := by
  have hlist : (Decimal.ofNat n).toList = Nat.toDigits 10 n := Nat.toList_repr
  have hdigits : ∀ c ∈ Nat.toDigits 10 n, c.isDigit := fun _ hc =>
    Nat.isDigit_of_mem_toDigits (by decide) (by decide) hc
  obtain ⟨c, ds, hcons⟩ := List.exists_cons_of_ne_nil (Nat.toDigits_ne_nil (b := 10) (n := n))
  rw [hcons, List.forall_mem_cons] at hdigits
  have hnumber : Lexeme.number c (ds ++ []) = ⟨.number, c :: ds, []⟩ :=
    Lexeme.number_of_digits (List.all_eq_true.2 hdigits.2) apart_nil
  have hread : Lexeme.read c ds = ⟨.number, c :: ds, []⟩ := by
    rw [Lexeme.read_of_isDigit hdigits.1, ← hnumber, List.append_nil]
  have hkind : (Lexeme.read c ds).kind = .number := by rw [hread]
  have hstands := Lexeme.stands_read (.inr hkind)
  rw [hread, ← hcons, ← hlist, String.ofList_toList] at hstands
  exact hstands

theorem symbols_number (n : Nat) (h : Apart rest) :
    symbols ((Decimal.ofNat n).toList ++ rest) = .number n :: symbols rest :=
  (Symbol.stands_number n).symbols_eq rest h

theorem symbols_integer (n : Int64) (h : Apart rest) :
    symbols ((CreateSequence.integerSql n).toList ++ rest) = Symbol.integer n ++ symbols rest := by
  rw [CreateSequence.integerSql, Decimal.ofInt, Symbol.integer]
  split
  · obtain ⟨c, hc, hminus, -⟩ := (Symbol.stands_number n.toInt.natAbs).head
    have hhead : ((Decimal.ofNat n.toInt.natAbs).toList ++ rest).head? ≠ some '-' := by
      rw [List.head?_append, show (Decimal.ofNat n.toInt.natAbs).toList.head? = some c from hc]
      simpa using hminus
    have htext : ("-" ++ Decimal.ofNat n.toInt.natAbs).toList ++ rest =
        '-' :: ((Decimal.ofNat n.toInt.natAbs).toList ++ rest) := by simp
    rw [htext, symbols_minus hhead, symbols_number _ h]
    rfl
  · exact symbols_number _ h

/-! ### Types -/

namespace DataType

theorem symbols_modifier (n : UInt32) (h : Apart rest) :
    SchemaPatch.symbols ((modifier n).toList ++ rest) = modifierSymbol n :: SchemaPatch.symbols rest :=
  symbols_number _ h

/-- A type lexes to its symbols. -/
theorem symbols_sql (t : DataType) (h : Apart rest) :
    SchemaPatch.symbols (t.sql.toList ++ rest) = t.symbols ++ SchemaPatch.symbols rest := by
  cases t with
  | numeric precision scale =>
    have hword : ∀ {cs : List Char}, Apart cs → SchemaPatch.symbols ("numeric".toList ++ cs) =
        ⟨.keyword .NUMERIC, "numeric"⟩ :: SchemaPatch.symbols cs := symbols_word (by decide) (by decide)
    cases precision with
    | none => exact hword h
    | some p =>
      cases scale with
      | none =>
        have htext : (numeric (some p) none).sql.toList ++ rest =
            "numeric".toList ++ '(' :: ((modifier p).toList ++ ')' :: rest) := by simp [sql]
        rw [htext, hword (by simp), symbols_leftParen, symbols_modifier p (by simp),
          symbols_rightParen]
        rfl
      | some s =>
        have htext : (numeric (some p) (some s)).sql.toList ++ rest = "numeric".toList ++
            '(' :: ((modifier p).toList ++ ',' :: ((modifier s).toList ++ ')' :: rest)) := by simp [sql]
        rw [htext, hword (by simp), symbols_leftParen, symbols_modifier p (by simp), symbols_comma,
          symbols_modifier s (by simp), symbols_rightParen]
        rfl
  | character varying length =>
    have hword : ∀ {cs : List Char}, Apart cs → SchemaPatch.symbols ("character".toList ++ cs) =
        ⟨.keyword .CHARACTER, "character"⟩ :: SchemaPatch.symbols cs :=
      symbols_word (by decide) (by decide)
    have hvarying : ∀ {cs : List Char}, Apart cs → SchemaPatch.symbols ("varying".toList ++ cs) =
        ⟨.keyword .VARYING, "varying"⟩ :: SchemaPatch.symbols cs := symbols_word (by decide) (by decide)
    have hlength : ∀ n : UInt32, SchemaPatch.symbols ('(' :: ((modifier n).toList ++ ')' :: rest)) =
        Symbol.parenthesized [modifierSymbol n] ++ SchemaPatch.symbols rest := by
      intro n
      rw [symbols_leftParen, symbols_modifier n (by simp), symbols_rightParen]
      rfl
    cases varying with
    | false =>
      cases length with
      | none => exact hword h
      | some n =>
        have htext : (character false (some n)).sql.toList ++ rest =
            "character".toList ++ '(' :: ((modifier n).toList ++ ')' :: rest) := by simp [sql]
        rw [htext, hword (by simp), hlength]
        rfl
    | true =>
      cases length with
      | none =>
        have htext : (character true none).sql.toList ++ rest =
            "character".toList ++ ' ' :: ("varying".toList ++ rest) := by simp [sql]
        rw [htext, hword (by simp), symbols_space, hvarying h]
        rfl
      | some n =>
        have htext : (character true (some n)).sql.toList ++ rest = "character".toList ++
            ' ' :: ("varying".toList ++ '(' :: ((modifier n).toList ++ ')' :: rest)) := by simp [sql]
        rw [htext, hword (by simp), symbols_space, hvarying (by simp), hlength]
        rfl
  | timestamp withTimeZone =>
    cases withTimeZone with
    | true =>
      have htext : (timestamp true).sql.toList ++ rest = "timestamp".toList ++
          ' ' :: ("with".toList ++ ' ' :: ("time".toList ++ ' ' :: ("zone".toList ++ rest))) := rfl
      rw [htext, symbols_word (by decide) rfl (by simp), symbols_space,
        symbols_word (by decide) rfl (by simp), symbols_space,
        symbols_word (by decide) rfl (by simp), symbols_space, symbols_word (by decide) rfl h]
      rfl
    | false =>
      have htext : (timestamp false).sql.toList ++ rest = "timestamp".toList ++
          ' ' :: ("without".toList ++ ' ' :: ("time".toList ++ ' ' :: ("zone".toList ++ rest))) := rfl
      rw [htext, symbols_word (by decide) rfl (by simp), symbols_space,
        symbols_word (by decide) rfl (by simp), symbols_space,
        symbols_word (by decide) rfl (by simp), symbols_space, symbols_word (by decide) rfl h]
      rfl
  | _ => exact symbols_word (by decide) (by decide) h

theorem head_sql (t : DataType) : ∃ c, t.sql.toList.head? = some c ∧ c ≠ '*' ∧ c ≠ '-' := by
  cases t with
  | numeric precision scale =>
    cases precision <;> cases scale <;> exact ⟨'n', by simp [sql], by decide, by decide⟩
  | character varying length => exact ⟨'c', by simp [sql], by decide, by decide⟩
  | timestamp withTimeZone => cases withTimeZone <;> exact ⟨'t', rfl, by decide, by decide⟩
  | _ => exact ⟨_, rfl, by decide, by decide⟩

end DataType

/-! ### Expressions -/

namespace Expression

/-- The text of an expression begins neither with an asterisk nor, unless a sign leads it, with a
minus sign. -/
theorem head_sql {e : Expression} (he : e.Spelled Symbol.Survives) :
    ∃ c, e.sql.toList.head? = some c ∧ c ≠ '*' ∧ (c = '-' → e.leadsWithMinus) := by
  have happend : ∀ {a b : String} {c : Char}, a.toList.head? = some c →
      (a ++ b).toList.head? = some c := by
    intro a b c h
    rw [String.toList_append, List.head?_append, h]
    rfl
  induction he with
  | identifier name =>
    exact ⟨'"', by simp [sql, Identifier.sql_toList, Quoted.quote], by decide, by simp⟩
  | string hs | number hs =>
    obtain ⟨c, hc, hminus, hasterisk⟩ := (hs (by simp)).head
    exact ⟨c, hc, hasterisk, fun h => absurd h hminus⟩
  | boolean value =>
    cases value with
    | false => exact ⟨'f', rfl, by decide, fun h => absurd h (by decide)⟩
    | true => exact ⟨'t', rfl, by decide, fun h => absurd h (by decide)⟩
  | null => exact ⟨'N', rfl, by decide, by simp⟩
  | group => exact ⟨'(', by simp [sql], by decide, by simp⟩
  | @unary op =>
    cases op with
    | neg => exact ⟨'-', by simp [sql, UnaryOp.sql], by decide, fun _ => rfl⟩
    | plus => exact ⟨'+', by simp [sql, UnaryOp.sql], by decide, by simp⟩
  | binary _ _ ihl _ =>
    obtain ⟨c, hc, hasterisk, hminus⟩ := ihl
    exact ⟨c, happend (happend (happend hc)), hasterisk, hminus⟩
  | call _ _ ihc _ =>
    obtain ⟨c, hc, hasterisk, hminus⟩ := ihc
    exact ⟨c, happend (happend (happend hc)), hasterisk, hminus⟩
  | type t =>
    obtain ⟨c, hc, hasterisk, hminus⟩ := t.head_sql
    exact ⟨c, hc, hasterisk, fun h => absurd h hminus⟩

/-- A right operand behind its separator makes no comment of the operator before it. -/
theorem head_separated {e : Expression} (he : e.Spelled Symbol.Survives) (rest : List Char) :
    (e.separator.toList ++ (e.sql.toList ++ rest)).head? ≠ some '-' ∧
      (e.separator.toList ++ (e.sql.toList ++ rest)).head? ≠ some '*' := by
  obtain ⟨c, hc, hasterisk, hminus⟩ := head_sql he
  have hhead : (e.sql.toList ++ rest).head? = some c := by
    rw [List.head?_append, hc]
    rfl
  rw [separator]
  split
  · simp
  · next hlead =>
    show (e.sql.toList ++ rest).head? ≠ some '-' ∧ (e.sql.toList ++ rest).head? ≠ some '*'
    rw [hhead]
    simp only [ne_eq, Option.some.injEq]
    exact ⟨fun h => hlead (hminus h), hasterisk⟩

theorem symbols_separator (e : Expression) (cs : List Char) :
    SchemaPatch.symbols (e.separator.toList ++ cs) = SchemaPatch.symbols cs := by
  rw [separator]
  split
  · exact symbols_space cs
  · rfl

/-- **An expression lexes to its symbols**, whatever its shape. -/
theorem symbols_sql {e : Expression} (he : e.Spelled Symbol.Survives) (h : Apart rest) :
    SchemaPatch.symbols (e.sql.toList ++ rest) = e.symbols ++ SchemaPatch.symbols rest := by
  induction he generalizing rest with
  | identifier name => exact symbols_name name (h.head?_ne (by decide))
  | string hs | number hs => exact (hs (by simp)).symbols_eq rest h
  | boolean value => cases value <;> exact symbols_word (by decide) (by decide) h
  | null => exact symbols_keyword .NULL h
  | @group inner _ ih =>
    have htext : (group inner).sql.toList ++ rest = '(' :: (inner.sql.toList ++ ')' :: rest) := by
      simp [sql]
    rw [htext, symbols_leftParen, ih (by simp), symbols_rightParen]
    simp [symbols, Symbol.parenthesized]
  | @unary op operand hs ih =>
    obtain ⟨hhead, -⟩ := head_separated hs rest
    have htext : (unary op operand).sql.toList ++ rest =
        op.sql.toList ++ (operand.separator.toList ++ (operand.sql.toList ++ rest)) := by
      simp [sql]
    rw [htext]
    cases op with
    | neg =>
      show SchemaPatch.symbols ('-' :: (operand.separator.toList ++ (operand.sql.toList ++ rest))) = _
      rw [symbols_minus hhead, symbols_separator, ih h]
      rfl
    | plus =>
      show SchemaPatch.symbols ('+' :: (operand.separator.toList ++ (operand.sql.toList ++ rest))) = _
      rw [symbols_plus, symbols_separator, ih h]
      rfl
  | @binary left right op hl hr ihl ihr =>
    obtain ⟨hminus, hasterisk⟩ := head_separated hr rest
    have htext : (binary left op right).sql.toList ++ rest = left.sql.toList ++
        (op.sql.toList ++ (right.separator.toList ++ (right.sql.toList ++ rest))) := by
      simp [sql]
    have hop : ∀ {cs : List Char}, cs.head? ≠ some '-' → cs.head? ≠ some '*' →
        SchemaPatch.symbols (op.sql.toList ++ cs) = op.symbols ++ SchemaPatch.symbols cs := by
      intro cs hminus hasterisk
      cases op with
      | add => exact symbols_plus cs
      | sub => exact symbols_minus hminus
      | mul => exact symbols_asterisk cs
      | div => exact symbols_slash hasterisk
      | typecast => exact symbols_typecast cs
      | is => exact (symbols_space _).trans (symbols_phrase [.IS] cs)
      | isNot => exact (symbols_space _).trans (symbols_phrase [.IS, .NOT] cs)
    have hapart : ∀ cs, Apart (op.sql.toList ++ cs) := by
      intro cs
      cases op <;> simp [BinaryOp.sql]
    rw [htext, ihl (hapart _), hop hminus hasterisk, symbols_separator, ihr h]
    simp [symbols]
  | @call callee args hc _ ihc iha =>
    have htext : (call callee args).sql.toList ++ rest = callee.sql.toList ++
        '(' :: ((sqlList args).toList ++ ')' :: rest) := by
      simp [sql]
    have hargs : SchemaPatch.symbols ((listed (args.map sql)).toList ++ ')' :: rest) =
        Symbol.listed (args.map symbols) ++ SchemaPatch.symbols (')' :: rest) :=
      symbols_listed (fun a ha _ h => iha a ha h) (by simp)
    rw [htext, ihc (by simp), symbols_leftParen, sqlList_eq_listed, hargs, symbols_rightParen]
    simp [symbols, Symbol.parenthesized, symbolsList_eq_listed]
  | type t => exact t.symbols_sql h

end Expression

end SchemaPatch
