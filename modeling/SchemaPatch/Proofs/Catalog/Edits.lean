import SchemaPatch.Catalog.Basic

/-!
# What statements may do to a catalog

A statement puts a table into a catalog, or it edits a table that may be there, or it leaves the
catalog alone. `Edits` lists what can be done to a table. A property of catalogs that holds of the
empty one and that tables put in and edits keep holds of every catalog that is built
(`Catalog.build_induction`).
-/

namespace SchemaPatch

/-- A statement edits a table in a way, where `schema` is the default. -/
inductive Edits (schema : Identifier) : Statement → QualifiedName → (Table → Table) → Prop where
  /-- An index that has a name is added, with the schema of the table. -/
  | index {s : CreateIndex} {name : Identifier} : s.name = some name →
      Edits schema (.createIndex s) (s.table.resolve schema)
        (.addIndex name { s with table := (s.table.resolve schema).toObjectName })
  /-- A sequence is attached to a column. -/
  | sequence (s : OwnSequence) :
      Edits schema (.ownSequence s) (s.table.resolve schema) (.attach s.column.value s.sequence.name)
  /-- A constraint that has a name is added. -/
  | constraint {s : AlterTable} {name : Identifier} {kind : ConstraintKind}
      {columns : List Identifier} : .addConstraint ⟨some name, kind, columns⟩ ∈ s.actions →
      Edits schema (.alterTable s) (s.table.resolve schema) (.addConstraint ⟨name, kind, columns⟩)
  /-- A column gets an explicit default. -/
  | default {s : AlterTable} {column : Identifier} {value : Expression} :
      .setDefault column value ∈ s.actions →
      Edits schema (.alterTable s) (s.table.resolve schema) (.addDefault ⟨column, value.sql⟩)

namespace Catalog

variable {P : Catalog → Prop}

/-- Actions on a table keep what the edits by them keep. -/
theorem alterTableAll_induction {table : QualifiedName} {actions : List AlterAction}
    (hedit : ∀ a ∈ actions, ∀ c, P c → P (c.alterTable table a).1) {c : Catalog} (hc : P c) :
    P (c.alterTableAll table actions).1 := by
  induction actions generalizing c with
  | nil => exact hc
  | cons a actions ih =>
    obtain ⟨ha, hactions⟩ := List.forall_mem_cons.1 hedit
    exact ih hactions (ha c hc)

/-- A statement keeps what tables put in by it and its edits keep. -/
theorem run_induction {schema : Identifier} {s : Statement}
    (hinsert : ∀ t, s = .createTable t → ∀ c, P c → P (c.insert (.ofStatement schema t)))
    (hedit : ∀ {table f}, Edits schema s table f → ∀ c, P c → P (c.modify table.sql f))
    {c : Catalog} (hc : P c) : P (c.run schema s).1 := by
  cases s with
  | createTable s => exact hinsert s rfl c hc
  | createIndex s =>
    unfold run createIndex
    dsimp only
    split
    · exact hc
    · next name hname =>
      split
      · exact hc
      · exact hedit (.index hname) c hc
  | ownSequence s =>
    unfold run attachSequence
    dsimp only
    split
    · exact hc
    · split
      · exact hc
      · exact hedit (.sequence s) c hc
  | alterTable s =>
    unfold run
    dsimp only
    split
    · exact hc
    · apply alterTableAll_induction _ hc
      intro a ha c hc
      unfold alterTable
      split
      · exact hc
      · exact hedit (.constraint ha) c hc
      · exact hedit (.default ha) c hc
  | _ => exact hc

/-- Statements keep what tables put in by them and their edits keep. -/
theorem runAll_induction {l : List Statement}
    (hinsert : ∀ schema t, .createTable t ∈ l → ∀ c, P c → P (c.insert (.ofStatement schema t)))
    (hedit : ∀ {schema s table f}, s ∈ l → Edits schema s table f →
      ∀ c, P c → P (c.modify table.sql f))
    {c : Catalog} (hc : P c) (schema : Identifier) : P (c.runAll schema l).1 := by
  induction l generalizing c schema with
  | nil => exact hc
  | cons s l ih =>
    have hfirst : P (c.run schema s).1 := by
      refine run_induction ?_ (hedit (List.mem_cons_self ..)) hc
      rintro t rfl
      exact hinsert schema t (List.mem_cons_self ..)
    refine ih ?_ ?_ hfirst _
    · intro schema t ht
      exact hinsert schema t (List.mem_cons_of_mem _ ht)
    · intro schema s table f hs
      exact hedit (List.mem_cons_of_mem _ hs)

/-- **Induction over catalogs that are built.** -/
theorem build_induction {l : List Statement} (hempty : P .empty)
    (hinsert : ∀ schema t, .createTable t ∈ l → ∀ c, P c → P (c.insert (.ofStatement schema t)))
    (hedit : ∀ {schema s table f}, s ∈ l → Edits schema s table f →
      ∀ c, P c → P (c.modify table.sql f)) : P (build l) :=
  runAll_induction hinsert hedit hempty publicSchema

end Catalog

end SchemaPatch
