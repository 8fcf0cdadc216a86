import SchemaPatch.Proofs.Catalog.Edits
import SchemaPatch.Proofs.Catalog.Keyed
import SchemaPatch.Proofs.Sql.Readable

/-!
# Legible catalogs

A catalog that statements leave keeps what they say, some of it only as texts. If the statements can
be read back, so can all that it keeps (`Catalog.Legible`): the definitions of the columns, the
statements that create the indexes, the constraints, which have columns, and the texts of explicit
defaults, which are those of expressions. Every edit keeps this (`Catalog.Legible.edit`).
-/

namespace SchemaPatch

variable (S : Symbol → Prop)

/-- A table whose parts can be read back. -/
structure Table.Legible (t : Table) : Prop where
  definitions : ∀ d ∈ t.definitions, d.Readable S
  indexes : ∀ e ∈ t.indexes.entries, e.2.statement.Readable S
  constraints : ∀ e ∈ t.constraints.entries, e.2.columns ≠ []
  defaults : ∀ e ∈ t.defaults.entries, ∃ value : Expression, value.Readable S ∧ e.2.value = value.sql

/-- A catalog whose tables can be read back. -/
def Catalog.Legible (c : Catalog) : Prop := ∀ e ∈ c.entries.entries, e.2.Legible S

variable {S}

/-! ### Tables -/

namespace Table

theorem ofStatement_legible (schema : Identifier) {s : CreateTable} (hs : s.Readable S) :
    (ofStatement schema s).Legible S where
  definitions := hs
  indexes := by simp [ofStatement, Keyed.empty]
  constraints := by simp [ofStatement, Keyed.empty]
  defaults := by simp [ofStatement, Keyed.empty]

namespace Legible

variable {t : Table}

theorem addIndex (h : t.Legible S) (name : Identifier) {s : CreateIndex} (hs : s.Readable S) :
    (t.addIndex name s).Legible S :=
  { h with
    indexes := fun e he => by
      rcases Keyed.mem_put he with rfl | he
      · exact hs
      · exact h.indexes e he }

theorem addConstraint (h : t.Legible S) {c : Constraint} (hc : c.columns ≠ []) :
    (t.addConstraint c).Legible S :=
  { h with
    constraints := fun e he => by
      rcases Keyed.mem_put he with rfl | he
      · exact hc
      · exact h.constraints e he }

theorem addDefault (h : t.Legible S) (column : Identifier) {value : Expression}
    (hv : value.Readable S) : (t.addDefault ⟨column, value.sql⟩).Legible S :=
  { h with
    defaults := fun e he => by
      rcases Keyed.mem_put he with rfl | he
      · exact ⟨value, hv, rfl⟩
      · exact h.defaults e he }

theorem attach (h : t.Legible S) (column : String) (sequence : Identifier) :
    (t.attach column sequence).Legible S :=
  ⟨h.definitions, h.indexes, h.constraints, h.defaults⟩

end Legible

end Table

/-! ### Catalogs -/

namespace Catalog.Legible

variable {c : Catalog}

theorem empty : Catalog.empty.Legible S := by simp [Catalog.Legible, Catalog.empty, Keyed.empty]

theorem insert (h : c.Legible S) {t : Table} (ht : t.Legible S) : (c.insert t).Legible S := by
  intro e he
  rcases Keyed.mem_putSorted he with rfl | he
  · exact ht
  · exact h e he

/-- Changing a table keeps a catalog legible if it keeps the table legible. -/
theorem modify (h : c.Legible S) (id : String) {f : Table → Table}
    (hf : ∀ t, t.Legible S → (f t).Legible S) : (c.modify id f).Legible S := by
  intro e he
  rcases Keyed.mem_modify he with he | ⟨t, ht, rfl⟩
  · exact h e he
  · exact hf t (h (id, t) ht)

/-- The edits of a statement that can be read back keep a catalog legible. -/
theorem edit (h : c.Legible S) {schema : Identifier} {s : Statement} (hs : s.Readable S)
    {table : QualifiedName} {f : Table → Table} (hedit : Edits schema s table f) :
    (c.modify table.sql f).Legible S := by
  cases hedit with
  | index _ => exact h.modify _ fun t ht => ht.addIndex _ ⟨hs.ne_nil, hs.targets⟩
  | sequence s => exact h.modify _ fun t ht => ht.attach ..
  | constraint ha => exact h.modify _ fun t ht => ht.addConstraint (hs.actions _ ha)
  | default ha => exact h.modify _ fun t ht => ht.addDefault _ (hs.actions _ ha)

end Catalog.Legible

/-- **Statements that can be read back leave a legible catalog.** -/
theorem Catalog.build_legible {statements : List Statement} (h : ∀ s ∈ statements, s.Readable S) :
    (build statements).Legible S := by
  apply build_induction Legible.empty
  · intro schema t ht c hc
    exact hc.insert (Table.ofStatement_legible schema (h _ ht))
  · intro schema s table f hs hedit c hc
    exact hc.edit (h s hs) hedit

end SchemaPatch
