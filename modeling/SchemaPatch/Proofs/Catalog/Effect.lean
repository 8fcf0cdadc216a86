import SchemaPatch.Proofs.Catalog.Keyed
import SchemaPatch.Proofs.Patch.Effect

/-!
# What statements do to a view

What a comparison sees of a catalog after a statement depends on what it sees before: creating a
table replaces it, changing a table changes what is seen of it, and a sequence is not seen.
-/

namespace SchemaPatch

theorem Keyed.contains_put {β : Type} (m : Keyed β) (k : String) (v : β) :
    (m.put k v).contains = Function.update m.contains k true := by
  funext k'
  rw [contains, get?_put]
  by_cases hk : k = k'
  · subst hk
    simp
  · rw [if_neg hk, Function.update_of_ne (Ne.symm hk)]
    rfl

namespace Table

variable (t : Table)

theorem view_addIndex (name : Identifier) (s : CreateIndex) :
    (t.addIndex name s).view = t.view.setIndex name true := by
  rw [view, addIndex, Keyed.contains_put]
  rfl

theorem view_addConstraint (c : Constraint) :
    (t.addConstraint c).view = t.view.setConstraint c.name true := by
  rw [view, addConstraint, Keyed.contains_put]
  rfl

theorem view_addDefault (d : ColumnDefault) :
    (t.addDefault d).view = t.view.setDefault d.column true := by
  rw [view, addDefault, Keyed.contains_put]
  rfl

theorem view_attach (column : String) (sequence : Identifier) :
    (t.attach column sequence).view = t.view := by
  rw [view, attach, Column.views_attach]
  rfl

end Table

namespace Catalog

variable (c : Catalog)

theorem view_insert (t : Table) :
    (c.insert t).view = Function.update c.view t.id (some t.view) := by
  funext id
  rw [view, table?, insert, Keyed.get?_putSorted]
  by_cases hid : t.id = id
  · subst hid
    simp
  · rw [if_neg hid, Function.update_of_ne (Ne.symm hid)]
    rfl

/-- Changing a table changes what is seen of it. -/
theorem view_modify {id : String} {f : Table → Table} {g : TableView → TableView}
    (h : ∀ t, (f t).view = g t.view) :
    (c.modify id f).view = Function.update c.view id ((c.view id).map g) := by
  funext id'
  rw [view, table?, modify, Keyed.get?_modify]
  by_cases hid : id = id'
  · subst hid
    rw [if_pos rfl, Function.update_self, view, table?]
    cases c.entries.get? id with
    | none => rfl
    | some t => exact congrArg some (h t)
  · rw [if_neg hid, Function.update_of_ne (Ne.symm hid)]
    rfl

/-- What is seen of a table that is not there cannot be changed. -/
theorem update_view_of_none {id : String} (h : c.table? id = none) (g : TableView → TableView) :
    Function.update c.view id ((c.view id).map g) = c.view := by
  have hnone : c.view id = none := by rw [view, h]; rfl
  rw [hnone, Option.map_none, ← hnone, Function.update_eq_self]

theorem view_createIndex (table : QualifiedName) {s : CreateIndex} {name : Identifier}
    (hname : s.name = some name) : (c.createIndex table s).1.view =
      Function.update c.view table.sql ((c.view table.sql).map (.setIndex name true)) := by
  rw [createIndex, hname]
  dsimp only
  split
  · next h => exact (c.update_view_of_none h _).symm
  · exact c.view_modify fun t => t.view_addIndex name _

theorem view_attachSequence (table : QualifiedName) (column sequence : Identifier) :
    (c.attachSequence table column sequence).1.view = c.view := by
  unfold attachSequence
  split
  · rfl
  · split
    · rfl
    · have hattach : ∀ t, (Table.attach column.value sequence t).view = id t.view :=
        fun t => t.view_attach column.value sequence
      rw [c.view_modify hattach, Option.map_id_apply, Function.update_eq_self]

/-- A table that is altered by one action. -/
theorem view_alterTable (schema : Identifier) {table : QualifiedName} {a : AlterAction}
    {g : TableView → TableView} (only : Bool)
    (h : (c.alterTable table a).1.view =
      Function.update c.view table.sql ((c.view table.sql).map g)) :
    (c.run schema (.alterTable ⟨only, table.toObjectName, [a]⟩)).1.view =
      Function.update c.view table.sql ((c.view table.sql).map g) := by
  unfold run
  dsimp only
  split
  · next hnone => exact (c.update_view_of_none hnone g).symm
  · exact h

end Catalog

end SchemaPatch
