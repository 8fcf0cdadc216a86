import SchemaPatch.Token.Basic

/-!
# Symbols

A token apart from the line it stands on: its kind and its text. The rules of the grammar look at
nothing else of a token, so what is read of a text depends on its symbols alone.
-/

namespace SchemaPatch

/-- A token apart from its line. -/
structure Symbol where
  /-- What kind of thing it is. -/
  kind : Token.Kind
  /-- Its text. -/
  literal : String
  deriving DecidableEq, Repr

/-- The symbol that a token is. -/
def Token.symbol (t : Token) : Symbol := ⟨t.kind, t.literal⟩

@[simp] theorem Token.symbol_kind (t : Token) : t.symbol.kind = t.kind := rfl

@[simp] theorem Token.symbol_literal (t : Token) : t.symbol.literal = t.literal := rfl

/-- A token of the kind comes first. -/
def Begins (kind : Token.Kind) (ts : List Token) : Prop := ts.head?.map Token.kind = some kind

@[simp] theorem begins_nil (kind : Token.Kind) : ¬ Begins kind [] := by simp [Begins]

@[simp] theorem begins_cons (kind : Token.Kind) (t : Token) (ts : List Token) :
    Begins kind (t :: ts) ↔ t.kind = kind := by simp [Begins]

end SchemaPatch
