import SchemaPatch.Proofs.Catalog.Edits
import SchemaPatch.Proofs.Catalog.Keyed
import SchemaPatch.Proofs.Catalog.View
import SchemaPatch.Proofs.Token.Quotation

/-!
# Coherent catalogs

In every catalog that statements leave, each thing stands under its own name and no name is taken
twice, an index has the name and the table that its statement says, and the columns of a table are
those of its definitions as far as a comparison sees them (`Catalog.Coherent`). Every edit keeps this
(`Catalog.Coherent.edit`), so it holds of every catalog that is built (`Catalog.build_coherent`).
-/

namespace SchemaPatch

/-- A table in which each thing stands under its own name. -/
structure Table.Coherent (t : Table) : Prop where
  columns : t.columns.Named (·.name.value)
  indexes : t.indexes.Named (·.name.value)
  constraints : t.constraints.Named (·.name.value)
  defaults : t.defaults.Named (·.column.value)
  defined : Column.views t.columns = Column.views (columnsOf t.definitions)
  indexName : ∀ e ∈ t.indexes.entries, e.2.statement.name = some e.2.name
  indexTable : ∀ e ∈ t.indexes.entries, e.2.statement.table = t.name.toObjectName

/-- A catalog in which coherent tables stand in order, each under the text of its name. -/
structure Catalog.Coherent (c : Catalog) : Prop where
  sorted : c.entries.Sorted
  id_eq : ∀ e ∈ c.entries.entries, e.2.id = e.1
  table : ∀ e ∈ c.entries.entries, e.2.Coherent

/-! ### Tables -/

namespace Table

theorem columnsOf_named (definitions : List ColumnDefinition) :
    (columnsOf definitions).Named (·.name.value) := by
  suffices ∀ m : Keyed Column, m.Named (·.name.value) →
      (definitions.foldl (fun m d => m.put d.name.value (.ofDefinition d)) m).Named (·.name.value) from
    this _ .empty
  induction definitions with
  | nil => exact fun m hm => hm
  | cons d definitions ih => exact fun m hm => ih _ (hm.put rfl)

/-- The columns are those of the definitions. -/
theorem mem_columnsOf {definitions : List ColumnDefinition} {e : String × Column}
    (h : e ∈ (columnsOf definitions).entries) : ∃ d ∈ definitions, e.2 = .ofDefinition d := by
  suffices ∀ m : Keyed Column, e ∈ (definitions.foldl
      (fun m d => m.put d.name.value (.ofDefinition d)) m).entries →
      e ∈ m.entries ∨ ∃ d ∈ definitions, e.2 = .ofDefinition d from
    (this .empty h).resolve_left (by simp [Keyed.empty])
  clear h
  induction definitions with
  | nil => exact fun m he => .inl he
  | cons d definitions ih =>
    intro m he
    rcases ih _ he with he | ⟨d', hd', heq⟩
    · rcases Keyed.mem_put he with rfl | he
      · exact .inr ⟨d, .head _, rfl⟩
      · exact .inl he
    · exact .inr ⟨d', .tail _ hd', heq⟩

theorem ofStatement_coherent (schema : Identifier) (s : CreateTable) :
    (ofStatement schema s).Coherent where
  columns := columnsOf_named s.columns
  indexes := .empty
  constraints := .empty
  defaults := .empty
  defined := rfl
  indexName := by simp [ofStatement, Keyed.empty]
  indexTable := by simp [ofStatement, Keyed.empty]

theorem Coherent.addIndex {t : Table} (h : t.Coherent) {name : Identifier} {s : CreateIndex}
    (hn : s.name = some name) (ht : s.table = t.name.toObjectName) :
    (t.addIndex name s).Coherent where
  columns := h.columns
  indexes := h.indexes.put rfl
  constraints := h.constraints
  defaults := h.defaults
  defined := h.defined
  indexName e he := by
    rcases Keyed.mem_put he with rfl | he
    · exact hn
    · exact h.indexName e he
  indexTable e he := by
    rcases Keyed.mem_put he with rfl | he
    · exact ht
    · exact h.indexTable e he

theorem Coherent.addConstraint {t : Table} (h : t.Coherent) (c : Constraint) :
    (t.addConstraint c).Coherent :=
  { h with constraints := h.constraints.put rfl }

theorem Coherent.addDefault {t : Table} (h : t.Coherent) (d : ColumnDefault) :
    (t.addDefault d).Coherent :=
  { h with defaults := h.defaults.put rfl }

theorem Coherent.attach {t : Table} (h : t.Coherent) (column : String) (sequence : Identifier) :
    (t.attach column sequence).Coherent :=
  { h with
    columns := h.columns.modify column fun _ => rfl
    defined := (Column.views_attach ..).trans h.defined }

end Table

/-! ### Catalogs -/

namespace Catalog.Coherent

variable {c : Catalog}

/-- A table is found by the text under which it stands. -/
theorem table?_of_mem (h : c.Coherent) {e : String × Table} (he : e ∈ c.entries.entries) :
    c.table? e.1 = some e.2 :=
  Keyed.get?_of_mem h.sorted.nodup he

theorem empty : Catalog.empty.Coherent where
  sorted := .empty
  id_eq := by simp [Catalog.empty, Keyed.empty]
  table := by simp [Catalog.empty, Keyed.empty]

theorem insert (h : c.Coherent) {t : Table} (ht : t.Coherent) : (c.insert t).Coherent where
  sorted := h.sorted.putSorted ..
  id_eq e he := by
    rcases Keyed.mem_putSorted he with rfl | he
    · rfl
    · exact h.id_eq e he
  table e he := by
    rcases Keyed.mem_putSorted he with rfl | he
    · exact ht
    · exact h.table e he

/-- Changing a table keeps a catalog coherent if it keeps the table coherent and its name. -/
theorem modify (h : c.Coherent) {id : String} {f : Table → Table} (hn : ∀ t, (f t).name = t.name)
    (hf : ∀ t, t.id = id → t.Coherent → (f t).Coherent) : (c.modify id f).Coherent where
  sorted := h.sorted.modify ..
  id_eq e he := by
    rcases Keyed.mem_modify he with he | ⟨t, ht, rfl⟩
    · exact h.id_eq e he
    · have hid : t.name.sql = id := h.id_eq (id, t) ht
      show (f t).name.sql = id
      rw [hn, hid]
  table e he := by
    rcases Keyed.mem_modify he with he | ⟨t, ht, rfl⟩
    · exact h.table e he
    · exact hf t (h.id_eq (id, t) ht) (h.table (id, t) ht)

/-- Every edit keeps a catalog coherent. -/
theorem edit (h : c.Coherent) {schema : Identifier} {s : Statement} {table : QualifiedName}
    {f : Table → Table} (hedit : Edits schema s table f) : (c.modify table.sql f).Coherent := by
  cases hedit with
  | index hname =>
    refine h.modify (fun _ => rfl) fun t hid ht => ht.addIndex hname ?_
    rw [QualifiedName.sql_injective hid]
  | sequence s => exact h.modify (fun _ => rfl) fun t _ ht => ht.attach ..
  | constraint _ => exact h.modify (fun _ => rfl) fun t _ ht => ht.addConstraint _
  | default _ => exact h.modify (fun _ => rfl) fun t _ ht => ht.addDefault _

end Catalog.Coherent

/-- **Every catalog that statements leave is coherent.** -/
theorem Catalog.build_coherent (statements : List Statement) : (build statements).Coherent :=
  build_induction .empty (fun schema t _ _ h => h.insert (Table.ofStatement_coherent schema t))
    fun _ hedit _ h => h.edit hedit

end SchemaPatch
