import SchemaPatch.Catalog.Basic

/-!
# What a comparison sees of a catalog

Tables are compared by the types, nullability and inline defaults of their columns and by the names
of what is attached to them. A view of a catalog keeps this and forgets the rest: the order of
names, sequences, and what stands behind the names of indexes, constraints and explicit defaults.
-/

namespace SchemaPatch

/-- What a comparison sees of a column. -/
structure ColumnView where
  /-- The text of its type. -/
  type : String
  /-- Whether null values are ruled out. -/
  notNull : Bool
  /-- The text of the default value in its definition. -/
  default : Option String
  deriving DecidableEq, Repr

/-- What a comparison sees of a table. -/
structure TableView where
  /-- The columns, by their names. -/
  columns : String → Option ColumnView
  /-- The names of its indexes. -/
  indexes : String → Bool
  /-- The names of its constraints. -/
  constraints : String → Bool
  /-- The columns that have an explicit default. -/
  defaults : String → Bool

/-- What a comparison sees of a catalog: its tables, by the texts by which they are known. -/
abbrev View := String → Option TableView

/-- A column as a comparison sees it. -/
def Column.view (c : Column) : ColumnView := ⟨c.type, c.notNull, c.default⟩

/-- Columns as a comparison sees them. -/
def Column.views (columns : Keyed Column) : String → Option ColumnView :=
  fun k => (columns.get? k).map Column.view

/-- A table as a comparison sees it. -/
def Table.view (t : Table) : TableView :=
  ⟨Column.views t.columns, t.indexes.contains, t.constraints.contains, t.defaults.contains⟩

/-- A catalog as a comparison sees it. -/
def Catalog.view (c : Catalog) : View := fun id => (c.table? id).map Table.view

/-- Attaching a sequence to a column is not seen. -/
theorem Column.views_attach (columns : Keyed Column) (column : String) (sequence : Identifier) :
    views (columns.modify column fun c => { c with sequence := some sequence }) = views columns := by
  funext k
  rw [views, views, Keyed.get?_modify]
  split
  · next h => subst h; cases columns.get? column <;> rfl
  · rfl

end SchemaPatch
