import SchemaPatch.Text.Spelling

/-!
# Identifiers

A name of a schema, table, column or other object. It is kept without quotes and always written
between double quotes, so that two spellings of one name are written alike.
-/

namespace SchemaPatch

/-- A name. -/
structure Identifier where
  /-- The name itself, without quotes. -/
  value : String
  deriving DecidableEq, Repr

namespace Identifier

/-- The name that the text of a token spells: between double quotes with each quote of the name
doubled, or as it is. -/
def ofLiteral (s : String) : Identifier :=
  match Quoted.unquote? '"' s.toList with
  | some cs => ⟨String.ofList cs⟩
  | none => ⟨s⟩

/-- A name between double quotes. -/
def sql (i : Identifier) : String := String.ofList (Quoted.quote '"' i.value.toList)

theorem ofLiteral_sql (i : Identifier) : ofLiteral i.sql = i := by
  simp [ofLiteral, sql, Quoted.unquote_quote]

end Identifier

/-- Texts one after the other, with a comma and a space between them. -/
def listed : List String → String
  | [] => ""
  | [s] => s
  | s :: t :: rest => s ++ ", " ++ listed (t :: rest)

end SchemaPatch
