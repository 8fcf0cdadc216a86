import SchemaPatch.Proofs.Catalog.Filed
import SchemaPatch.Proofs.Catalog.Links
import SchemaPatch.Proofs.Catalog.Projection

/-!
# Where sequences stay attached

A catalog has a sequence attached to a column if a statement attaches it there while the column is
there, and behind it the table is not created again and nothing else is attached to this column
(`Catalog.link?_build_iff`). That the same sequence is attached to another column later takes nothing
away: what was attached first stays.
-/

namespace SchemaPatch

/-- The sequence that a statement attaches to a column of a table. -/
def Statement.attached? (id column : String) : Statement → Option Identifier
  | .ownSequence s =>
    if s.table.sql = id ∧ s.column.value = column then some s.sequence.name else none
  | _ => none

namespace Catalog

/-- A catalog has a column in a table that is known by a text. -/
def HasColumn (c : Catalog) (id column : String) : Prop :=
  ∃ t, c.table? id = some t ∧ t.columns.contains column

/-- A statement attaches a sequence to a column that is there, and nothing behind it creates the
table again or attaches another sequence to the column. -/
def AttachesLast (id column : String) (sequence : Identifier) (statements : List Statement) : Prop :=
  ∃ before s after, statements = before ++ s :: after ∧
    s.attached? id column = some sequence ∧ (build before).HasColumn id column ∧
      ∀ x ∈ after, x.creates id = false ∧ x.attached? id column = none

theorem hasColumn_iff {c : Catalog} {id column : String} :
    c.HasColumn id column ↔ (c.links id column).isSome := by
  rw [HasColumn, links]
  cases c.table? id with
  | none => simp
  | some t => simp [Column.links, Keyed.contains]

/-! ### One statement -/

/-- Statements with one more attach a sequence last if this one does, or if it leaves the column alone
and the others do. -/
theorem attachesLast_concat {id column : String} {sequence : Identifier} {l : List Statement}
    {x : Statement} : AttachesLast id column sequence (l ++ [x]) ↔
      (x.attached? id column = some sequence ∧ (build l).HasColumn id column) ∨
        ((x.creates id = false ∧ x.attached? id column = none) ∧
          AttachesLast id column sequence l) := by
  constructor
  · rintro ⟨before, s, after, hsplit, hattached, hcolumn, hafter⟩
    rcases List.eq_nil_or_concat' after with rfl | ⟨rest, y, rfl⟩
    · obtain ⟨rfl, hx⟩ := List.append_inj' hsplit rfl
      cases hx
      exact .inl ⟨hattached, hcolumn⟩
    · rw [← List.cons_append, ← List.append_assoc] at hsplit
      obtain ⟨rfl, hx⟩ := List.append_inj' hsplit rfl
      cases hx
      exact .inr ⟨hafter x (by simp),
        before, s, rest, rfl, hattached, hcolumn, fun z hz => hafter z (by simp [hz])⟩
  · rintro (⟨hattached, hcolumn⟩ | ⟨hx, before, s, after, rfl, hattached, hcolumn, hafter⟩)
    · exact ⟨l, x, [], rfl, hattached, hcolumn, by simp⟩
    · refine ⟨before, s, after ++ [x], by simp, hattached, hcolumn, fun y hy => ?_⟩
      rcases List.mem_append.1 hy with hy | hy
      · exact hafter y hy
      · rw [List.mem_singleton.1 hy]
        exact hx

/-- What is attached to a column behind a statement: nothing if the table is created, the sequence of
the statement if it attaches one to the column, and otherwise what was attached before. -/
theorem link?_run (c : Catalog) {s : Statement} (hs : s.isQualified) (schema : Identifier)
    (id column : String) : (c.run schema s).1.link? id column =
      if s.creates id then none
      else match s.attached? id column with
        | some sequence => (c.links id column).map fun _ => sequence
        | none => c.link? id column := by
  simp only [link?_eq_join]
  cases s with
  | createTable s =>
    have hid : (Table.ofStatement schema s).id = s.table.sql := by
      rw [Table.id, Table.ofStatement, QualifiedName.sql]
      exact congrArg ObjectName.sql (ObjectName.withSchema_of_isSome hs schema)
    have hcreates : (Statement.createTable s).creates id ↔ s.table.sql = id := decide_eq_true_iff
    rw [run, createTable, links_insert, hid]
    by_cases h : s.table.sql = id
    · rw [if_pos (hcreates.2 h), h, Function.update_self]
      exact Column.links_columnsOf s.columns column
    · rw [if_neg (mt hcreates.1 h), Function.update_of_ne (Ne.symm h)]
      rfl
  | createIndex s => exact congrArg (fun l : Links => (l id column).join) (c.links_createIndex _ s)
  | ownSequence s =>
    have htable : (s.table.resolve schema).sql = s.table.sql :=
      congrArg ObjectName.sql (ObjectName.withSchema_of_isSome hs schema)
    simp only [run, links_attachSequence, htable, Statement.creates, Statement.attached?, Links.attach,
      Column.attachLink]
    by_cases hid : s.table.sql = id
    · subst hid
      by_cases hcolumn : s.column.value = column
      · subst hcolumn
        cases c.links s.table.sql s.column.value <;> simp
      · simp [hcolumn, Function.update_of_ne (Ne.symm hcolumn)]
    · simp [hid, Function.update_of_ne (Ne.symm hid)]
  | alterTable s =>
    exact congrArg (fun l : Links => (l id column).join) (c.links_alterTable schema s)
  | createSchema _ | createSequence _ => rfl
  | setSearchPath _ => cases hs

/-! ### All statements -/

theorem build_concat (l : List Statement) (s : Statement) :
    build (l ++ [s]) = ((build l).run (schemaInForce l) s).1 :=
  runAll_append empty [] l [s]

/-- **A catalog has a sequence attached to a column exactly if statements attach it there last.** -/
theorem link?_build_iff (statements : List Statement) (id column : String) (sequence : Identifier) :
    (build statements).link? id column = some sequence ↔
      AttachesLast id column sequence (qualified statements) := by
  rw [build, ← fold_qualified, ← build]
  have hqualified : ∀ s ∈ qualified statements, s.isQualified := fun _ hs =>
    isQualified_of_mem_qualifiedBehind hs
  generalize qualified statements = l at hqualified
  induction l using List.reverseRecOn with
  | nil => simp [AttachesLast, build, fold, runAll, link?, table?, empty]
  | append_singleton l s ih =>
    obtain ⟨hl, hs⟩ := List.forall_mem_append.1 hqualified
    have hbefore : (build l).link? id column = some sequence ↔ AttachesLast id column sequence l :=
      ih hl
    rw [build_concat, link?_run _ (hs s List.mem_cons_self), attachesLast_concat, ← hbefore,
      hasColumn_iff]
    cases hcreates : s.creates id with
    | true =>
      have hnone : s.attached? id column = none := by
        cases s with
        | createTable _ => rfl
        | _ => cases hcreates
      simp [hnone]
    | false =>
      cases hattached : s.attached? id column with
      | none => simp
      | some q => cases (build l).links id column <;> simp

end Catalog

end SchemaPatch
