import SchemaPatch.Proofs.Sql.Lexing
import SchemaPatch.Proofs.Sql.Plain
import SchemaPatch.Proofs.Token.Layout
import SchemaPatch.Proofs.Token.Spaced

/-!
# Expressions lex to their own tokens

The text of an expression of any shape is lexed to the symbols of the expression and the end, if its
strings and numbers are tokens of some text: no two tokens next to each other run together. The text is
nothing but these tokens with spaces between them, so no comment arises in it either
(`Expression.tokens_sql`).
-/

namespace SchemaPatch

/-- A symbol that is a token of some text. -/
def Symbol.IsLexed (x : Symbol) : Prop :=
  ∃ text, ∃ t ∈ (TokenStream.ofText text).tokens, t.symbol = x

theorem Symbol.IsLexed.survives {x : Symbol} (h : x.IsLexed) : x.Survives := by
  obtain ⟨text, t, ht, rfl⟩ := h
  have hmem : t.symbol ∈ symbols text.toList := by
    rw [← symbols_toList]
    exact List.mem_map_of_mem ht
  exact survives_of_mem hmem

/-- Symbols that stand inside statements end with the end of their text. -/
theorem Symbol.ending_of_plain {xs : List Symbol} (h : Plain xs) :
    ending xs = [⟨.endOfInput, ""⟩] := by
  rw [ending, if_neg]
  rw [Option.any_eq_true]
  rintro ⟨x, hx, hk⟩
  have hplain := h x (List.mem_of_getLast? hx)
  rw [eq_of_beq hk] at hplain
  cases hplain

/-! ### Texts with spaces between tokens -/

namespace Spaced

variable {xs ys : List Symbol} {cs ds : List Char}

theorem single (x : Symbol) : Spaced [x] x.literal.toList := by
  simpa using Spaced.symbol x .nil

theorem append (hx : Spaced xs cs) (hy : Spaced ys ds) : Spaced (xs ++ ys) (cs ++ ds) := by
  induction hx with
  | nil => exact hy
  | space _ ih => exact .space ih
  | symbol x _ ih =>
    rw [List.append_assoc]
    exact .symbol x ih

theorem parenthesized (h : Spaced xs cs) :
    Spaced (Symbol.parenthesized xs) ('(' :: (cs ++ [')'])) :=
  .symbol ⟨.leftParen, "("⟩ (h.append (.single ⟨.rightParen, ")"⟩))

theorem listed {α : Type} {sql : α → String} {spelled : α → List Symbol} {l : List α}
    (h : ∀ a ∈ l, Spaced (spelled a) (sql a).toList) :
    Spaced (Symbol.listed (l.map spelled)) (SchemaPatch.listed (l.map sql)).toList := by
  induction l with
  | nil => exact .nil
  | cons a l ih =>
    obtain ⟨ha, hl⟩ := List.forall_mem_cons.1 h
    cases l with
    | nil => exact ha
    | cons b l =>
      have hrest := ha.append (.symbol ⟨.comma, ","⟩ (.space (ih hl)))
      show Spaced (spelled a ++ ⟨.comma, ","⟩ :: Symbol.listed ((b :: l).map spelled)) _
      simpa [SchemaPatch.listed] using hrest

end Spaced

theorem DataType.spaced (t : DataType) : Spaced t.symbols t.sql.toList := by
  have hmodifier : ∀ n : UInt32, Spaced [modifierSymbol n] (modifier n).toList := fun n =>
    .single (modifierSymbol n)
  cases t with
  | numeric precision scale =>
    cases precision with
    | none => exact .single ⟨.keyword .NUMERIC, "numeric"⟩
    | some p =>
      cases scale with
      | none =>
        have h := Spaced.symbol ⟨.keyword .NUMERIC, "numeric"⟩ (hmodifier p).parenthesized
        simpa [symbols, sql] using h
      | some s =>
        have hboth := (hmodifier p).append (.symbol ⟨.comma, ","⟩ (hmodifier s))
        have h := Spaced.symbol ⟨.keyword .NUMERIC, "numeric"⟩ hboth.parenthesized
        simpa [symbols, sql] using h
  | character varying length =>
    have hvarying : Spaced (if varying then [⟨.keyword .VARYING, "varying"⟩] else [])
        (if varying then " varying" else "").toList := by
      cases varying with
      | false => exact .nil
      | true => exact .space (.single ⟨.keyword .VARYING, "varying"⟩)
    cases length with
    | none =>
      have h := Spaced.symbol ⟨.keyword .CHARACTER, "character"⟩ hvarying
      simpa [symbols, sql] using h
    | some n =>
      have h := Spaced.symbol ⟨.keyword .CHARACTER, "character"⟩
        (hvarying.append (hmodifier n).parenthesized)
      simpa [symbols, sql] using h
  | timestamp withTimeZone =>
    cases withTimeZone with
    | true =>
      exact .symbol ⟨.keyword .TIMESTAMP, "timestamp"⟩ (.space (.symbol ⟨.keyword .WITH, "with"⟩
        (.space (.symbol ⟨.keyword .TIME, "time"⟩ (.space (.single ⟨.keyword .ZONE, "zone"⟩))))))
    | false =>
      exact .symbol ⟨.keyword .TIMESTAMP, "timestamp"⟩ (.space (.symbol ⟨.keyword .WITHOUT, "without"⟩
        (.space (.symbol ⟨.keyword .TIME, "time"⟩ (.space (.single ⟨.keyword .ZONE, "zone"⟩))))))
  | _ => exact .single _

theorem BinaryOp.spaced (op : BinaryOp) : Spaced op.symbols op.sql.toList := by
  have hspace : Spaced [] [' '] := .space .nil
  cases op with
  | is => exact .space (.symbol (.word .IS) hspace)
  | isNot => exact .space (.symbol (.word .IS) (.space (.symbol (.word .NOT) hspace)))
  | _ => exact .single _

namespace Expression

theorem spaced_separator (e : Expression) : Spaced [] e.separator.toList := by
  rw [separator]
  split
  · exact .space .nil
  · exact .nil

/-- The text of an expression is its symbols with spaces between them. -/
theorem Spelled.spaced {S : Symbol → Prop} {e : Expression} (he : e.Spelled S) :
    Spaced e.symbols e.sql.toList := by
  induction he with
  | boolean value => cases value <;> exact .single _
  | group _ ih => simpa [symbols, sql] using ih.parenthesized
  | @unary op operand _ ih =>
    have h := Spaced.symbol op.symbol (operand.spaced_separator.append ih)
    have hop : op.symbol.literal = op.sql := by cases op <;> rfl
    simpa [symbols, sql, hop] using h
  | @binary left right op _ _ ihl ihr =>
    have h := ihl.append (op.spaced.append (right.spaced_separator.append ihr))
    simpa [symbols, sql] using h
  | call _ _ ihc iha =>
    have h := ihc.append (Spaced.listed iha).parenthesized
    simpa [symbols, sql, symbolsList_eq_listed, sqlList_eq_listed] using h
  | type t => exact t.spaced
  | _ => exact .single _

/-- **An expression of any shape lexes to its own tokens**, if its strings and numbers are tokens of some
text: its text is lexed to the symbols of the expression in order and the end, and what the lexer passes
over between them are spaces, so there is no comment in it. -/
theorem tokens_sql {e : Expression} (he : e.Spelled Symbol.IsLexed) :
    (TokenStream.ofText e.sql).toList.map Token.symbol = e.symbols ++ [⟨.endOfInput, ""⟩] ∧
      ∀ n, let l := (Lexer.ofText e.sql).behind n
        l.finished = false → ∀ c ∈ (Gap.read l.rest).trivia, c = ' ' := by
  have hsurvive := he.imp fun _ => Symbol.IsLexed.survives
  have hsymbols : SchemaPatch.symbols e.sql.toList = e.symbols := by
    have h := symbols_sql hsurvive apart_nil
    simpa using h
  constructor
  · rw [TokenStream.map_symbol_toList, hsymbols, Symbol.ending_of_plain he.plain_symbols]
  · intro n l hf
    refine Lexer.trivia_of_spaced ?_ n hf
    show Spaced (SchemaPatch.symbols e.sql.toList) e.sql.toList
    rw [hsymbols]
    exact he.spaced

/-- Signs before signs and behind an operator. The text is parsed to another expression, as a cast binds
more strongly than a sign. -/
theorem tokens_sql_signs :
    let e := binary (unary .neg (unary .neg (number "1."))) .sub
      (binary (unary .neg (string "'--'")) .typecast (type .text))
    e.sql = "- -1.- -'--'::text" ∧ e.Spelled Symbol.IsLexed ∧
      (TokenStream.ofText e.sql).toList.map Token.symbol =
        [⟨.minus, "-"⟩, ⟨.minus, "-"⟩, ⟨.number, "1."⟩, ⟨.minus, "-"⟩, ⟨.minus, "-"⟩,
          ⟨.string, "'--'"⟩, ⟨.typecast, "::"⟩, ⟨.keyword .TEXT, "text"⟩, ⟨.endOfInput, ""⟩] := by
  have hnumber : Symbol.IsLexed ⟨.number, "1."⟩ := ⟨"1.", ⟨.number, "1.", 1⟩, by decide +kernel⟩
  have hstring : Symbol.IsLexed ⟨.string, "'--'"⟩ :=
    ⟨"'--'", ⟨.string, "'--'", 1⟩, by decide +kernel⟩
  intro e
  have he : e.Spelled Symbol.IsLexed :=
    .binary (.unary (.unary (.number hnumber))) (.binary (.unary (.string hstring)) (.type .text))
  exact ⟨rfl, he, (tokens_sql he).1⟩

end Expression

end SchemaPatch
