import SchemaPatch.Proofs.Document.Truncation
import SchemaPatch.Proofs.Patch.Agreement
import SchemaPatch.Proofs.Patch.Convergence

/-!
# Empty patches

A patch is empty exactly if a comparison sees the same of both catalogs: the same tables, in each of
them the same columns with the same types, nullability and inline defaults, and the same names of
indexes, constraints and explicit defaults (`Comparison.patch_empty_iff`). What is not seen makes no
difference: the order of names, sequences, and what stands behind names that are the same.

From nothing to do to the same view one gets by convergence, as no statements lead nowhere.
-/

namespace SchemaPatch

/-- Every block has a text, as it has a header. -/
theorem Block.sql_ne_empty (b : Block) : b.sql ≠ "" := by
  intro h
  have hlength := congrArg String.length h
  simp [sql, header] at hlength

namespace Patch

theorem sql_eq_empty_iff {p : Patch} : p.sql = "" ↔ p.blocks = [] := by
  obtain ⟨blocks⟩ := p
  cases blocks with
  | nil => simp [sql, blocksSql]
  | cons b blocks =>
    have hb := b.sql_ne_empty
    simp [sql, blocksSql, hb]

/-- Between coherent catalogs there is nothing to change exactly if the same is seen of both. -/
theorem blocks_between_eq_nil_iff {source desired : Catalog} (hs : source.Coherent)
    (hd : desired.Coherent) : (between source desired).blocks = [] ↔ source.view = desired.view := by
  constructor
  · intro hnone
    have hlead := lead_between hs hd
    have hsteps : (between source desired).steps = [] := by rw [steps, hnone]; rfl
    rw [hsteps] at hlead
    exact hlead.foldl_eq
  · intro hview
    rw [between_of_view_eq hs hview]

end Patch

namespace Comparison

/-- **A patch is empty exactly between catalogs of which the same is seen.** So it does not matter
for this which of them is to be changed, and a text without errors is compared with itself without
a change. -/
theorem patch_empty_iff (source desired : List Statement) :
    ((Patch.between (Catalog.build source) (Catalog.build desired)).sql = "" ↔
        (Catalog.build source).view = (Catalog.build desired).view) ∧
      ((Patch.between (Catalog.build source) (Catalog.build desired)).sql = "" ↔
        (Patch.between (Catalog.build desired) (Catalog.build source)).sql = "") ∧
      ∀ first second text : String, (Document.ofText first text).isClean →
        ∃ p, patch ⟨.ofText first text, .ofText second text⟩ = .ok p ∧ p.sql = "" := by
  have hempty : ∀ l m : List Statement,
      (Patch.between (Catalog.build l) (Catalog.build m)).sql = "" ↔
        (Catalog.build l).view = (Catalog.build m).view := by
    intro l m
    rw [Patch.sql_eq_empty_iff]
    exact Patch.blocks_between_eq_nil_iff (Catalog.build_coherent l) (Catalog.build_coherent m)
  refine ⟨hempty source desired, ?_, ?_⟩
  · rw [hempty, hempty, eq_comm]
  · intro first second text hclean
    have hname : (Document.ofText second text).isClean := by
      rw [Document.isClean_iff] at hclean ⊢
      exact hclean
    refine ⟨_, if_pos (by simp [isClean, hclean, hname]), ?_⟩
    exact (hempty _ _).2 rfl

/-- A table with a default is compared with itself. -/
theorem patch_empty_defaultTable :
    (Document.ofText "old" "CREATE TABLE t (id bigint DEFAULT 1);").isClean ∧
      ∃ p, patch ⟨.ofText "old" "CREATE TABLE t (id bigint DEFAULT 1);",
        .ofText "new" "CREATE TABLE t (id bigint DEFAULT 1);"⟩ = .ok p ∧ p.sql = "" := by
  have hclean : (Document.ofText "old" "CREATE TABLE t (id bigint DEFAULT 1);").isClean := by
    decide +kernel
  exact ⟨hclean, (patch_empty_iff [] []).2.2 "old" "new" _ hclean⟩

end Comparison

end SchemaPatch
