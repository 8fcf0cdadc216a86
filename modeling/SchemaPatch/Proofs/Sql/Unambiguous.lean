import SchemaPatch.Proofs.Grammar.ReadsExpression
import SchemaPatch.Proofs.Grammar.ReadsType
import SchemaPatch.Proofs.Sql.Lexing

/-!
# Unambiguous texts

A rule reads symbols as one thing only (`Rule.Reads.unique`), so what is read back from its text is
told apart by its text: no two types that have a spelling have the same one (`DataType.sql_inj`), and
no two expressions that can be read back (`Expression.sql_inj`). Where a comparison goes by texts it
loses nothing.
-/

namespace SchemaPatch

/-! ### What is read -/

/-- Tokens of a first line that spell symbols. -/
def Symbol.token (x : Symbol) : Token := ⟨x.kind, x.literal, 1⟩

theorem spells_map_token (xs ys : List Symbol) :
    Spells xs ((xs ++ ys).map Symbol.token) (ys.map Symbol.token) :=
  ⟨_, List.map_append .., by simp [Symbol.token, Token.symbol, Function.comp_def]⟩

/-- Rules that read the same symbols as something, with more symbols behind, read them as the same
and leave the same. -/
theorem Rule.Reads.unique_append {α : Type} {p q : Token.Kind → Bool} {r : Rule α}
    {xs ys zs ws : List Symbol} {a b : α} (ha : Reads p r xs a) (hb : Reads q r ys b)
    (hp : Follows p (zs.map Symbol.token)) (hq : Follows q (ws.map Symbol.token))
    (h : xs ++ zs = ys ++ ws) : a = b ∧ zs = ws := by
  have hread := ha (spells_map_token xs zs) hp
  rw [h, hb (spells_map_token ys ws) hq] at hread
  obtain ⟨hresult, hrest⟩ := Prod.mk.inj (Except.ok.inj hread)
  have hsymbols := congrArg (List.map Token.symbol) hrest
  rw [List.map_map, List.map_map, show Token.symbol ∘ Symbol.token = id from rfl, List.map_id,
    List.map_id] at hsymbols
  exact ⟨hresult.symm, hsymbols.symm⟩

/-- A rule reads symbols as one thing only, whatever it asks of what follows. -/
theorem Rule.Reads.unique {α : Type} {p q : Token.Kind → Bool} {r : Rule α} {xs : List Symbol}
    {a b : α} (ha : Reads p r xs a) (hb : Reads q r xs b) : a = b := by
  have hnone : ∀ p, Follows p (([] : List Symbol).map Symbol.token) := follows_nil
  exact (ha.unique_append hb (hnone p) (hnone q) rfl).1

/-! ### Types -/

namespace DataType

/-- The symbols of a type are those of its text. -/
theorem symbols_eq (t : DataType) : SchemaPatch.symbols t.sql.toList = t.symbols := by
  have h := t.symbols_sql apart_nil
  simpa using h

/-- **Types are told apart by their texts.** -/
theorem sql_inj {t u : DataType} (ht : t.IsReadable) (hu : u.IsReadable) :
    t.sql = u.sql ↔ t = u := by
  refine ⟨fun h => ?_, congrArg sql⟩
  have hsymbols : t.symbols = u.symbols := by rw [← t.symbols_eq, ← u.symbols_eq, h]
  have hread := Rule.Reads.dataType ht
  rw [hsymbols] at hread
  exact hread.unique (Rule.Reads.dataType hu)

end DataType

/-- Of two modifiers the second needs the first: a type without a spelling has the text of another
one. -/
example : (DataType.numeric none (some 2)).sql = (DataType.numeric none none).sql := rfl

/-! ### Expressions -/

namespace Expression

variable {e f : Expression}

/-- The symbols of an expression are those of its text. -/
theorem symbols_eq (he : e.Readable Symbol.Survives) :
    SchemaPatch.symbols e.sql.toList = e.symbols := by
  have h := symbols_sql he.spelled apart_nil
  simpa using h

/-- **Expressions are told apart by their texts.** -/
theorem sql_inj (he : e.Readable Symbol.Survives) (hf : f.Readable Symbol.Survives) :
    e.sql = f.sql ↔ e = f := by
  refine ⟨fun h => ?_, congrArg sql⟩
  have hsymbols : e.symbols = f.symbols := by rw [← symbols_eq he, ← symbols_eq hf, h]
  have hread := Rule.Reads.expression he.nested
  rw [hsymbols] at hread
  exact hread.unique (Rule.Reads.expression hf.nested)

end Expression

end SchemaPatch
