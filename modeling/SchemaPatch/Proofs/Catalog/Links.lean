import SchemaPatch.Proofs.Catalog.Coherent
import SchemaPatch.Proofs.Catalog.Effect

/-!
# Sequences attached to columns

A comparison does not see which sequences are attached to columns; `Catalog.links` does, and nothing
else besides which columns there are. A table comes without attached sequences, only the statement
that attaches one changes what is attached, and that only at a column that is there.
-/

namespace SchemaPatch

/-- The sequences attached to columns, by the texts by which the tables are known and the names of
the columns, with nothing for a column that is not there. -/
abbrev Links := String → String → Option (Option Identifier)

/-- Columns and the sequences attached to them. -/
def Column.links (columns : Keyed Column) : String → Option (Option Identifier) :=
  fun k => (columns.get? k).map Column.sequence

/-- Columns with a sequence attached to one of them, if it is there. -/
def Column.attachLink (column : String) (sequence : Identifier)
    (f : String → Option (Option Identifier)) : String → Option (Option Identifier) :=
  Function.update f column ((f column).map fun _ => some sequence)

/-- Links with a sequence attached to a column, if it is there. -/
def Links.attach (l : Links) (id column : String) (sequence : Identifier) : Links :=
  Function.update l id (Column.attachLink column sequence (l id))

/-- The columns of a catalog and the sequences attached to them. -/
def Catalog.links (c : Catalog) : Links :=
  fun id => ((c.table? id).map fun t => Column.links t.columns).getD fun _ => none

/-- The sequence that is attached to a column. -/
def Catalog.link? (c : Catalog) (id column : String) : Option Identifier :=
  ((c.table? id).bind (·.column? column)).bind Column.sequence

theorem Column.attachLink_of_none {column : String} {f : String → Option (Option Identifier)}
    (h : f column = none) (sequence : Identifier) : attachLink column sequence f = f := by
  rw [attachLink, h, Option.map_none, ← h, Function.update_eq_self]

/-- A sequence is not attached to what is not there. -/
theorem Links.attach_of_none {l : Links} {id column : String} (h : l id column = none)
    (sequence : Identifier) : l.attach id column sequence = l := by
  rw [attach, Column.attachLink_of_none h, Function.update_eq_self]

theorem Column.links_attach (columns : Keyed Column) (column : String) (sequence : Identifier) :
    links (columns.modify column fun c => { c with sequence := some sequence }) =
      attachLink column sequence (links columns) := by
  funext k
  rw [links, Keyed.get?_modify, attachLink]
  by_cases hk : column = k
  · subst hk
    rw [if_pos rfl, Function.update_self, links]
    cases columns.get? column <;> rfl
  · rw [if_neg hk, Function.update_of_ne (Ne.symm hk)]
    rfl

theorem Catalog.link?_eq_join (c : Catalog) (id column : String) :
    c.link? id column = (c.links id column).join := by
  rw [link?, links]
  cases c.table? id with
  | none => rfl
  | some t =>
    show (t.columns.get? column).bind Column.sequence =
      ((t.columns.get? column).map Column.sequence).join
    cases t.columns.get? column <;> rfl

/-! ### Definitions -/

/-- No sequence is attached to a column by its definition. -/
theorem Column.links_columnsOf (definitions : List ColumnDefinition) (k : String) :
    (links (Table.columnsOf definitions) k).join = none := by
  rw [links]
  cases h : (Table.columnsOf definitions).get? k with
  | none => rfl
  | some c =>
    obtain ⟨d, -, rfl⟩ := Table.mem_columnsOf (Keyed.mem_of_get? h)
    rfl

/-- The columns of a coherent table are those of its definitions, if no attached sequence counts. -/
theorem Table.Coherent.links_columnsOf {t : Table} (ht : t.Coherent) :
    Column.links (columnsOf t.definitions) = fun k => (t.columns.get? k).map fun _ => none := by
  funext k
  have hview := congrFun ht.defined k
  have hnone := Column.links_columnsOf t.definitions k
  rw [Column.views, Column.views] at hview
  rw [Column.links] at hnone ⊢
  cases h : (columnsOf t.definitions).get? k with
  | none =>
    rw [h, Option.map_none, Option.map_eq_none_iff] at hview
    rw [hview]
    rfl
  | some d =>
    rw [h, Option.map_some, Option.map_eq_some_iff] at hview
    obtain ⟨c, hc, -⟩ := hview
    rw [h, Option.map_some, Option.join_some] at hnone
    rw [hc, Option.map_some, Option.map_some, hnone]

/-! ### Statements -/

namespace Catalog

variable (c : Catalog)

theorem links_insert (t : Table) :
    (c.insert t).links = Function.update c.links t.id (Column.links t.columns) := by
  funext id
  rw [links, table?, insert, Keyed.get?_putSorted]
  by_cases hid : t.id = id
  · subst hid
    rw [if_pos rfl, Function.update_self]
    rfl
  · rw [if_neg hid, Function.update_of_ne (Ne.symm hid)]
    rfl

theorem links_modify (id : String) {f : Table → Table}
    {g : (String → Option (Option Identifier)) → String → Option (Option Identifier)}
    (hf : ∀ t, Column.links (f t).columns = g (Column.links t.columns))
    (hg : g (fun _ => none) = fun _ => none) :
    (c.modify id f).links = Function.update c.links id (g (c.links id)) := by
  funext id'
  rw [links, table?, modify, Keyed.get?_modify]
  by_cases hid : id = id'
  · subst hid
    rw [if_pos rfl, Function.update_self, links, table?]
    cases c.entries.get? id with
    | none => exact hg.symm
    | some t => exact hf t
  · rw [if_neg hid, Function.update_of_ne (Ne.symm hid)]
    rfl

/-- An edit of a table that leaves the columns alone. -/
theorem links_modify_of_columns_eq (id : String) {f : Table → Table}
    (hf : ∀ t, (f t).columns = t.columns) : (c.modify id f).links = c.links := by
  rw [c.links_modify id (f := f) (g := fun columns => columns) (fun t => by rw [hf]) rfl,
    Function.update_eq_self]

theorem links_createIndex (table : QualifiedName) (s : CreateIndex) :
    (c.createIndex table s).1.links = c.links := by
  unfold createIndex
  split
  · rfl
  · split
    · rfl
    · exact c.links_modify_of_columns_eq _ fun _ => rfl

theorem links_alterTable (schema : Identifier) (s : AlterTable) :
    (c.run schema (.alterTable s)).1.links = c.links := by
  have hone : ∀ (c : Catalog) table a, (c.alterTable table a).1.links = c.links := by
    intro c table a
    unfold alterTable
    split
    · rfl
    · exact c.links_modify_of_columns_eq _ fun _ => rfl
    · exact c.links_modify_of_columns_eq _ fun _ => rfl
  unfold run
  dsimp only
  split
  · rfl
  · exact alterTableAll_induction (P := fun c' => c'.links = c.links)
      (fun a _ c' hc' => (hone c' _ a).trans hc') rfl

theorem links_attachSequence (table : QualifiedName) (column sequence : Identifier) :
    (c.attachSequence table column sequence).1.links =
      c.links.attach table.sql column.value sequence := by
  unfold attachSequence
  split
  · next hnone =>
    have habsent : c.links table.sql column.value = none := by
      rw [links, hnone]
      rfl
    exact (Links.attach_of_none habsent sequence).symm
  · next t ht =>
    split
    · next hnone =>
      have habsent : c.links table.sql column.value = none := by
        rw [links, ht]
        exact congrArg (Option.map Column.sequence) hnone
      exact (Links.attach_of_none habsent sequence).symm
    · exact c.links_modify table.sql
        (fun t => Column.links_attach t.columns column.value sequence)
        (Column.attachLink_of_none rfl sequence)

end Catalog

end SchemaPatch
