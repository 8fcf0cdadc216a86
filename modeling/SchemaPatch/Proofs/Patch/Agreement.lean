import SchemaPatch.Proofs.Catalog.Coherent
import SchemaPatch.Patch.Basic

/-!
# Catalogs that agree

Between catalogs of which a comparison sees the same there is nothing to change: the patch is empty
(`Patch.between_of_view_eq`).
-/

namespace SchemaPatch

namespace Keyed

variable {β γ : Type} {m : Keyed β} {m' : Keyed γ}

theorem missingFrom_eq_nil (h : ∀ e ∈ m.entries, m'.contains e.1) : m.missingFrom m' = [] := by
  have hnone : (m.entries.filter fun e => !m'.contains e.1) = [] := by
    rw [List.filter_eq_nil_iff]
    intro e he
    simp [h e he]
  rw [missingFrom, hnone, List.map_nil]

theorem contains_of_mem {e : String × β} (he : e ∈ m.entries) : m.contains e.1 := by
  apply Bool.of_not_eq_false
  intro hc
  exact contains_eq_false_iff.1 hc (List.mem_map_of_mem he)

/-- Lists that have the same names lack none of each other's. -/
theorem missingFrom_of_contains_eq (h : m.contains = m'.contains) : m.missingFrom m' = [] := by
  apply missingFrom_eq_nil
  intro e he
  rw [← h]
  exact contains_of_mem he

end Keyed

/-- Columns of which the same is seen need no change. -/
theorem Column.changes_of_view_eq {source desired : Column} (h : source.view = desired.view) :
    source.changes desired = [] := by
  obtain ⟨htype, hnull, hdefault⟩ := ColumnView.mk.inj h
  rw [changes, if_pos htype, if_pos hnull, if_pos hdefault]
  rfl

namespace Table

variable {source desired : Table}

theorem columnChanges_of_views_eq (hs : source.columns.keys.Nodup)
    (h : Column.views source.columns = Column.views desired.columns) :
    source.columnChanges desired = [] := by
  have hcontains : source.columns.contains = desired.columns.contains := by
    funext k
    have hk := congrArg Option.isSome (congrFun h k)
    simpa [Column.views, Keyed.contains] using hk
  have hpaired : (source.columns.pairedWith desired.columns).flatMap
      (fun p => p.1.changes p.2) = [] := by
    apply List.flatMap_eq_nil_iff.2
    intro p hp
    obtain ⟨e, he, hpe⟩ := List.mem_filterMap.1 hp
    obtain ⟨d, hd, rfl⟩ := Option.map_eq_some_iff.1 hpe
    refine Column.changes_of_view_eq ?_
    have hk := congrFun h e.1
    rw [Column.views, Column.views, hd, Keyed.get?_of_mem hs he] at hk
    exact Option.some.inj hk
  rw [columnChanges, hpaired, Keyed.missingFrom_of_contains_eq hcontains,
    Keyed.missingFrom_of_contains_eq hcontains.symm]
  rfl

/-- Tables of which the same is seen need no change. -/
theorem changes_of_view_eq (hs : source.columns.keys.Nodup) (h : source.view = desired.view) :
    source.changes desired = [] := by
  obtain ⟨hcolumns, hindexes, hconstraints, hdefaults⟩ := TableView.mk.inj h
  rw [changes, columnChanges_of_views_eq hs hcolumns, indexChanges, constraintChanges,
    defaultChanges, Keyed.missingFrom_of_contains_eq hindexes,
    Keyed.missingFrom_of_contains_eq hindexes.symm,
    Keyed.missingFrom_of_contains_eq hconstraints,
    Keyed.missingFrom_of_contains_eq hconstraints.symm,
    Keyed.missingFrom_of_contains_eq hdefaults, Keyed.missingFrom_of_contains_eq hdefaults.symm]
  rfl

end Table

/-- **Between catalogs of which the same is seen the patch is empty.** -/
theorem Patch.between_of_view_eq {source desired : Catalog} (hs : source.Coherent)
    (h : source.view = desired.view) : between source desired = ⟨[]⟩ := by
  have hcontains : source.entries.contains = desired.entries.contains := by
    funext k
    have hk := congrArg Option.isSome (congrFun h k)
    simpa [Catalog.view, Catalog.table?, Keyed.contains] using hk
  have hpresent : source.entries.entries.filterMap
      (fun e => Block.ofPresent? e.2 (desired.table? e.1)) = [] := by
    apply List.filterMap_eq_nil_iff.2
    intro e he
    have hk := congrFun h e.1
    rw [Catalog.view, Catalog.view, Catalog.table?, Keyed.get?_of_mem hs.sorted.nodup he] at hk
    obtain ⟨t, ht, hview⟩ := Option.map_eq_some_iff.1 hk.symm
    have hnone := Table.changes_of_view_eq (hs.table e he).columns.nodup hview.symm
    rw [ht, Block.ofPresent?]
    simp only [hnone]
  rw [between, hpresent, Keyed.missingFrom_of_contains_eq hcontains.symm]
  rfl

end SchemaPatch
