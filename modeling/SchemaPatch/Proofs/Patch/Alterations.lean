import SchemaPatch.Document.Basic
import SchemaPatch.Proofs.Patch.Order

/-!
# Columns that a patch alters

A statement that alters a column should find it there: among the columns of the table, unless the
patch has dropped it before, or among those that the patch has added. Columns are dropped by what
the tables define, explicit defaults by themselves and later. So one sort of statement comes too
late: the removal of the explicit default of a column that is dropped. All other alterations find
their column (`Patch.altered_isThere_iff`), if the explicit defaults of both catalogs belong to
columns.
-/

namespace SchemaPatch

/-- The column that a change alters, if it alters one. -/
def Change.altered? : Change → Option Identifier
  | setType column _ _ | setNotNull column _ | setInlineDefault column _ | dropDefault column =>
    some column
  | setDefault default => some default.column
  | _ => none

/-- Behind changes to a table, a column is there: it was there and was not dropped, or it was
added. -/
def Table.IsThere (t : Table) (done : List Change) (column : Identifier) : Prop :=
  (t.columns.contains column.value ∧ .dropColumn column ∉ done) ∨
    ∃ c : Column, .addColumn c ∈ done ∧ c.name = column

/-- Every explicit default is one of a column of its table. -/
def Table.DefaultsOfColumns (t : Table) : Prop :=
  ∀ d ∈ t.defaults.values, t.columns.contains d.column.value

instance (t : Table) : Decidable t.DefaultsOfColumns :=
  inferInstanceAs (Decidable (∀ d ∈ t.defaults.values, t.columns.contains d.column.value))

/-- Every explicit default in a catalog is one of a column of its table. -/
def Catalog.DefaultsOfColumns (c : Catalog) : Prop := ∀ t ∈ c.tables, t.DefaultsOfColumns

instance (c : Catalog) : Decidable c.DefaultsOfColumns :=
  inferInstanceAs (Decidable (∀ t ∈ c.tables, t.DefaultsOfColumns))

/-! ### Values under their own names -/

namespace Keyed.Named

variable {β γ : Type} {name : β → String} {m : Keyed β}

theorem contains_iff (h : m.Named name) {k : String} :
    m.contains k ↔ ∃ v ∈ m.values, name v = k := by
  rw [← Bool.not_eq_false, contains_eq_false_iff, Classical.not_not]
  constructor
  · intro hk
    obtain ⟨e, he, rfl⟩ := List.mem_map.1 hk
    exact ⟨e.2, List.mem_map_of_mem he, h.name_eq e he⟩
  · rintro ⟨v, hv, rfl⟩
    obtain ⟨e, he, rfl⟩ := List.mem_map.1 hv
    rw [h.name_eq e he]
    exact List.mem_map_of_mem he

theorem mem_missingFrom (h : m.Named name) {m' : Keyed γ} {v : β} :
    v ∈ m.missingFrom m' ↔ v ∈ m.values ∧ m'.contains (name v) = false := by
  simp only [missingFrom, values, List.mem_map, List.mem_filter, Bool.not_eq_true']
  constructor
  · rintro ⟨e, ⟨he, hk⟩, rfl⟩
    exact ⟨⟨e, he, rfl⟩, by rwa [h.name_eq e he]⟩
  · rintro ⟨⟨e, he, rfl⟩, hk⟩
    exact ⟨e, ⟨he, by rwa [h.name_eq e he] at hk⟩, rfl⟩

/-- The names of what another list lacks. -/
theorem exists_mem_missingFrom (h : m.Named name) {m' : Keyed γ} {k : String} :
    (∃ v ∈ m.missingFrom m', name v = k) ↔ m.contains k ∧ m'.contains k = false := by
  simp only [h.mem_missingFrom, h.contains_iff]
  constructor
  · rintro ⟨v, ⟨hv, hk⟩, rfl⟩
    exact ⟨⟨v, hv, rfl⟩, hk⟩
  · rintro ⟨⟨v, hv, rfl⟩, hk⟩
    exact ⟨v, ⟨hv, hk⟩, rfl⟩

end Keyed.Named

theorem Identifier.eq_iff {i j : Identifier} : i = j ↔ i.value = j.value := by
  cases i
  cases j
  simp

/-! ### Changes to columns -/

theorem Column.altered?_of_mem_changes {source desired : Column} {x : Change}
    (hx : x ∈ source.changes desired) : x.altered? = some desired.name := by
  rcases mem_changes hx with rfl | rfl | rfl <;> rfl

namespace Table

variable {source desired : Table} {x : Change} {column : Identifier}

theorem dropColumn_mem_changes_iff : .dropColumn column ∈ source.changes desired ↔
    .dropColumn column ∈ source.columnChanges desired := by
  simp [changes, indexChanges, constraintChanges, defaultChanges]

theorem addColumn_mem_changes_iff {c : Column} : .addColumn c ∈ source.changes desired ↔
    .addColumn c ∈ source.columnChanges desired := by
  simp [changes, indexChanges, constraintChanges, defaultChanges]

/-- The columns that are dropped are those which the other table does not have. -/
theorem dropColumn_mem_iff (hs : source.Coherent) :
    .dropColumn column ∈ source.columnChanges desired ↔
      source.columns.contains column.value ∧ desired.columns.contains column.value = false := by
  rw [← hs.columns.exists_mem_missingFrom]
  simp only [columnChanges, List.mem_append, List.mem_map, List.mem_flatMap, Identifier.eq_iff,
    Change.dropColumn.injEq, reduceCtorEq, and_false, exists_false, or_false]
  constructor
  · rintro (h | ⟨p, -, hp⟩)
    · exact h
    · cases Column.altered?_of_mem_changes hp
  · exact .inl

/-- The columns that are added are those which the table did not have. -/
theorem addColumn_mem_iff (hd : desired.Coherent) :
    (∃ c : Column, .addColumn c ∈ source.columnChanges desired ∧ c.name = column) ↔
      desired.columns.contains column.value ∧ source.columns.contains column.value = false := by
  rw [← hd.columns.exists_mem_missingFrom]
  simp only [columnChanges, List.mem_append, List.mem_map, List.mem_flatMap, Identifier.eq_iff,
    Change.addColumn.injEq, reduceCtorEq, and_false, exists_false, false_or, exists_eq_right]
  constructor
  · rintro ⟨c, ⟨p, -, hp⟩ | hc, hname⟩
    · cases Column.altered?_of_mem_changes hp
    · exact ⟨c, hc, hname⟩
  · rintro ⟨c, hc, hname⟩
    exact ⟨c, .inr hc, hname⟩

/-- A change to columns that alters one alters a column of both tables. -/
theorem contains_of_altered (hd : desired.Coherent) (hx : x ∈ source.columnChanges desired)
    (hcolumn : x.altered? = some column) :
    source.columns.contains column.value ∧ desired.columns.contains column.value := by
  simp only [columnChanges, List.mem_append, List.mem_map, List.mem_flatMap] at hx
  rcases hx with (⟨c, -, rfl⟩ | ⟨p, hp, hx⟩) | ⟨c, -, rfl⟩
  · cases hcolumn
  · rw [Column.altered?_of_mem_changes hx, Option.some.injEq] at hcolumn
    subst hcolumn
    obtain ⟨e, he, hpe⟩ := List.mem_filterMap.1 hp
    obtain ⟨c, hc, rfl⟩ := Option.map_eq_some_iff.1 hpe
    have hname : c.name.value = e.1 := hd.columns.name_eq (e.1, c) (Keyed.mem_of_get? hc)
    show source.columns.contains c.name.value ∧ desired.columns.contains c.name.value
    rw [hname]
    refine ⟨?_, by rw [Keyed.contains, hc]; rfl⟩
    rw [← Bool.not_eq_false, Keyed.contains_eq_false_iff, Classical.not_not]
    exact List.mem_map_of_mem he
  · cases hcolumn

/-- A change that is not one to columns and alters one, drops the explicit default of the one table
or sets that of the other. -/
theorem default_of_altered (hx : x ∈ source.changes desired)
    (hnot : x ∉ source.columnChanges desired) (hcolumn : x.altered? = some column) :
    (x = .dropDefault column ∧ ∃ d ∈ source.defaults.values, d.column = column) ∨
      ∃ d ∈ desired.defaults.values, x = .setDefault d ∧ d.column = column := by
  simp only [changes, List.mem_append, hnot, false_or, indexChanges, constraintChanges,
    defaultChanges, List.mem_map] at hx
  rcases hx with ((⟨i, -, rfl⟩ | ⟨i, -, rfl⟩) | ⟨c, -, rfl⟩ | ⟨c, -, rfl⟩) | ⟨d, hd, rfl⟩ |
    ⟨d, hd, rfl⟩
  · cases hcolumn
  · cases hcolumn
  · cases hcolumn
  · cases hcolumn
  · cases hcolumn
    exact .inl ⟨rfl, d, Keyed.missingFrom_subset _ _ hd, rfl⟩
  · cases hcolumn
    exact .inr ⟨d, Keyed.missingFrom_subset _ _ hd, rfl, rfl⟩

/-- Behind the changes to columns and some of the others, the columns are those of the other table.
-/
theorem isThere_iff_contains (hs : source.Coherent) (hd : desired.Coherent) {done : List Change}
    (hsub : done ⊆ source.changes desired) (hcolumns : source.columnChanges desired ⊆ done) :
    source.IsThere done column ↔ desired.columns.contains column.value := by
  have hdrop : .dropColumn column ∈ done ↔ .dropColumn column ∈ source.columnChanges desired :=
    ⟨fun h => dropColumn_mem_changes_iff.1 (hsub h), fun h => hcolumns h⟩
  have hadd : ∀ c : Column, .addColumn c ∈ done ↔ .addColumn c ∈ source.columnChanges desired :=
    fun c => ⟨fun h => addColumn_mem_changes_iff.1 (hsub h), fun h => hcolumns h⟩
  simp only [IsThere, hdrop, hadd, dropColumn_mem_iff hs, addColumn_mem_iff hd]
  cases source.columns.contains column.value <;> cases desired.columns.contains column.value <;>
    simp

/-- What is not a change to columns comes behind all of those. -/
theorem columnChanges_subset_of_split {done rest : List Change}
    (hsplit : source.changes desired = done ++ x :: rest)
    (hx : x ∉ source.columnChanges desired) : source.columnChanges desired ⊆ done := by
  rw [changes, List.append_assoc, List.append_assoc] at hsplit
  obtain ⟨others, rfl, -⟩ | ⟨late, hlate, hrest⟩ := List.append_eq_append_iff.1 hsplit
  · exact List.subset_append_left _ _
  · cases late with
    | nil => rw [hlate, List.append_nil]; exact List.Subset.refl _
    | cons y late =>
      obtain ⟨rfl, -⟩ := List.cons.inj hrest
      exact absurd (by rw [hlate]; simp) hx

/-- An alteration finds its column, unless it removes the explicit default of a column that has been
dropped. -/
theorem isThere_iff (hs : source.Coherent) (hd : desired.Coherent) (hsource : source.DefaultsOfColumns)
    (hdesired : desired.DefaultsOfColumns) {done rest : List Change}
    (hsplit : source.changes desired = done ++ x :: rest) (hcolumn : x.altered? = some column) :
    source.IsThere done column ↔ ¬ (x = .dropDefault column ∧ .dropColumn column ∈ done) := by
  have hsub : done ⊆ source.changes desired := by
    rw [hsplit]
    exact List.subset_append_left _ _
  have hgone : .dropColumn column ∈ done → desired.columns.contains column.value = false :=
    fun h => ((dropColumn_mem_iff hs).1 (dropColumn_mem_changes_iff.1 (hsub h))).2
  by_cases hmem : x ∈ source.columnChanges desired
  · -- Both tables have the column, so nothing drops it.
    obtain ⟨hbefore, hafter⟩ := contains_of_altered hd hmem hcolumn
    have hkept : .dropColumn column ∉ done := fun h => by simp [hgone h] at hafter
    exact iff_of_true (.inl ⟨hbefore, hkept⟩) fun h => hkept h.2
  · -- The changes to columns are done, so the columns are those of the table to come.
    have hcolumns := columnChanges_subset_of_split hsplit hmem
    rw [isThere_iff_contains hs hd hsub hcolumns]
    obtain ⟨rfl, d, hdef, rfl⟩ | ⟨d, hdef, rfl, rfl⟩ :=
      default_of_altered (by rw [hsplit]; simp) hmem hcolumn
    · have hbefore := hsource d hdef
      constructor
      · rintro hafter ⟨-, hdropped⟩
        simp [hgone hdropped] at hafter
      · intro hkept
        apply Bool.of_not_eq_false
        intro hafter
        exact hkept ⟨rfl, hcolumns ((dropColumn_mem_iff hs).2 ⟨hbefore, hafter⟩)⟩
    · exact iff_of_true (hdesired d hdef) fun h => Change.noConfusion h.1

end Table

namespace Patch

variable {s d : Table}

/-- **In the block of a table that is there before and after, an alteration finds its column exactly
if it does not remove the explicit default of a column that the block has dropped**, where all
explicit defaults are those of columns. -/
theorem altered_isThere_iff (before after : List Statement)
    (hbefore : (Catalog.build before).DefaultsOfColumns)
    (hafter : (Catalog.build after).DefaultsOfColumns) {b : Block}
    (hb : b ∈ (between (Catalog.build before) (Catalog.build after)).blocks)
    (hs : (Catalog.build before).table? b.table.sql = some s)
    (hd : (Catalog.build after).table? b.table.sql = some d) {done rest : List Change} {x : Change}
    {column : Identifier} (hsplit : b.changes = done ++ x :: rest)
    (hcolumn : x.altered? = some column) :
    s.IsThere done column ↔ ¬ (x = .dropDefault column ∧ .dropColumn column ∈ done) := by
  have hcoherent := Catalog.build_coherent before
  have hcoherent' := Catalog.build_coherent after
  have hmem := Keyed.mem_of_get? hs
  have hmem' := Keyed.mem_of_get? hd
  rw [changes_of_mem_blocks hcoherent hcoherent' hb hs hd] at hsplit
  exact Table.isThere_iff (hcoherent.table _ hmem) (hcoherent'.table _ hmem')
    (hbefore s (List.mem_map_of_mem hmem)) (hafter d (List.mem_map_of_mem hmem')) hsplit hcolumn

/-- A table whose second column has an explicit default. -/
def explicitDefault : List Statement :=
  (Document.ofText "old" ("CREATE TABLE t (a bigint, b bigint); " ++
    "ALTER TABLE t ALTER COLUMN b SET DEFAULT 1;")).statements

/-- The same table without its second column. -/
def firstColumn : List Statement := (Document.ofText "new" "CREATE TABLE t (a bigint);").statements

/-- If a column goes with its explicit default, it is not there any more when the default is
removed. -/
theorem altered_explicitDefault : ∃ s d,
    (Catalog.build explicitDefault).table? (QualifiedName.mk ⟨"public"⟩ ⟨"t"⟩).sql = some s ∧
      (Catalog.build firstColumn).table? (QualifiedName.mk ⟨"public"⟩ ⟨"t"⟩).sql = some d ∧
      s.changes d = [.dropColumn ⟨"b"⟩, .dropDefault ⟨"b"⟩] ∧
      ¬ s.IsThere [.dropColumn ⟨"b"⟩] ⟨"b"⟩ := by
  obtain ⟨s, hs⟩ := Option.isSome_iff_exists.1 (show ((Catalog.build explicitDefault).table?
    (QualifiedName.mk ⟨"public"⟩ ⟨"t"⟩).sql).isSome by decide +kernel)
  obtain ⟨d, hd⟩ := Option.isSome_iff_exists.1 (show ((Catalog.build firstColumn).table?
    (QualifiedName.mk ⟨"public"⟩ ⟨"t"⟩).sql).isSome by decide +kernel)
  have hb : ⟨⟨⟨"public"⟩, ⟨"t"⟩⟩, [.dropColumn ⟨"b"⟩, .dropDefault ⟨"b"⟩]⟩ ∈
      (between (Catalog.build explicitDefault) (Catalog.build firstColumn)).blocks := by
    decide +kernel
  have hchanges := changes_of_mem_blocks (Catalog.build_coherent _) (Catalog.build_coherent _) hb hs hd
  refine ⟨s, d, hs, hd, hchanges.symm, fun hthere => ?_⟩
  exact (altered_isThere_iff explicitDefault firstColumn (by decide +kernel) (by decide +kernel) hb hs
    hd rfl rfl).1 hthere ⟨rfl, List.mem_singleton_self _⟩

end Patch

end SchemaPatch
