import SchemaPatch.Proofs.Catalog.Coherent
import SchemaPatch.Proofs.Patch.Effect

/-!
# The order of a patch

The blocks of tables that were there come first in a patch, then those of the new tables, both in the
order of their names (`Patch.blocks_ordered`). So a patch has at most one block for a table, and what
it does to a table that is there before and after are the changes between the two
(`Patch.changesTo_between`). Of two statements about different tables, the order of the tables says
which comes first (`Patch.lt_iff_precedes`).
-/

namespace SchemaPatch

/-- A patch from a catalog treats one table before another one: only the first was there, or both
were there or neither was, and the name of the first comes first. -/
def Catalog.Precedes (c : Catalog) (a b : QualifiedName) : Prop :=
  ((c.table? a.sql).isSome ∧ c.table? b.sql = none) ∨
    ((c.table? a.sql).isSome = (c.table? b.sql).isSome ∧ a.sql < b.sql)

namespace Catalog

variable {c : Catalog} {a b : QualifiedName}

theorem Precedes.asymm (h : c.Precedes a b) : ¬ c.Precedes b a := by
  rintro (⟨hb, ha⟩ | ⟨heq, hlt⟩)
  · rcases h with ⟨ha', -⟩ | ⟨heq, -⟩ <;> simp_all
  · rcases h with ⟨ha, hb⟩ | ⟨-, hlt'⟩
    · simp_all
    · exact String.lt_irrefl _ (String.lt_trans hlt hlt')

theorem Precedes.ne (h : c.Precedes a b) : a ≠ b := by
  rintro rfl
  exact h.asymm h

/-- Before a table that was there come those that were there and have a smaller name, and a table
that was there comes before all that were not. -/
theorem precedes_iff_of_isSome (ha : (c.table? a.sql).isSome) :
    c.Precedes a b ↔ c.table? b.sql = none ∨ a.sql < b.sql := by
  rw [Precedes, ha]
  cases hb : c.table? b.sql <;> simp

end Catalog

namespace Patch

variable {source desired : Catalog}

/-- A block of a table that was there stands under the name of that table. -/
theorem table_ofPresent? (hs : source.Coherent) (hd : desired.Coherent) {e : String × Table}
    (he : e ∈ source.entries.entries) {b : Block}
    (hb : Block.ofPresent? e.2 (desired.table? e.1) = some b) : b.table.sql = e.1 := by
  simp only [Block.ofPresent?] at hb
  split at hb
  next =>
    cases hb
    exact hs.id_eq e he
  next t ht =>
    split at hb
    · cases hb
    · cases hb
      exact hd.id_eq (e.1, t) (Keyed.mem_of_get? ht)

theorem isSome_of_ofPresent? (hs : source.Coherent) (hd : desired.Coherent) {e : String × Table}
    (he : e ∈ source.entries.entries) {b : Block}
    (hb : Block.ofPresent? e.2 (desired.table? e.1) = some b) :
    (source.table? b.table.sql).isSome := by
  rw [table_ofPresent? hs hd he hb, hs.table?_of_mem he]
  rfl

/-- The blocks of a patch come in the order of their tables. -/
theorem blocks_ordered (hs : source.Coherent) (hd : desired.Coherent) :
    (between source desired).blocks.Pairwise fun b b' => source.Precedes b.table b'.table := by
  have hafter : ∀ {e}, e ∈ desired.entries.entries.filter (fun e => !source.entries.contains e.1) →
      e.2.name.sql = e.1 ∧ source.table? e.1 = none := by
    intro e he
    obtain ⟨he, hnew⟩ := List.mem_filter.1 he
    exact ⟨hd.id_eq e he, by simpa [Keyed.contains, Catalog.table?] using hnew⟩
  have hold := List.Pairwise.and_mem.1 (List.pairwise_map.1 hs.sorted)
  have hnew := List.Pairwise.and_mem.1
    ((List.pairwise_map.1 hd.sorted).filter fun e => !source.entries.contains e.1)
  refine List.pairwise_append.2 ⟨hold.filterMap _ ?_, ?_, ?_⟩
  · rintro e e' ⟨he, he', hlt⟩ b hb b' hb'
    refine .inr ⟨by rw [isSome_of_ofPresent? hs hd he hb, isSome_of_ofPresent? hs hd he' hb'], ?_⟩
    rwa [table_ofPresent? hs hd he hb, table_ofPresent? hs hd he' hb']
  · rw [Keyed.missingFrom, List.pairwise_map, List.pairwise_map]
    refine hnew.imp ?_
    rintro e e' ⟨he, he', hlt⟩
    obtain ⟨hid, hnone⟩ := hafter he
    obtain ⟨hid', hnone'⟩ := hafter he'
    simp only [Block.ofNew, Catalog.Precedes, hid, hid', hnone, hnone']
    exact .inr ⟨trivial, hlt⟩
  · intro b hb b' hb'
    obtain ⟨e, he, hb⟩ := List.mem_filterMap.1 hb
    obtain ⟨t, ht, rfl⟩ := List.mem_map.1 hb'
    obtain ⟨e', he', rfl⟩ := List.mem_map.1 ht
    obtain ⟨hid, hnone⟩ := hafter he'
    refine .inl ⟨isSome_of_ofPresent? hs hd he hb, ?_⟩
    rw [Block.ofNew, hid, hnone]

/-- Two statements of a patch are about one table, or they come in the order of their tables. -/
theorem steps_ordered (hs : source.Coherent) (hd : desired.Coherent) :
    (between source desired).steps.Pairwise fun x y =>
      x.table = y.table ∨ source.Precedes x.table y.table := by
  refine List.pairwise_flatMap.2 ⟨fun b _ => ?_, (blocks_ordered hs hd).imp fun h x hx y hy => ?_⟩
  · exact List.pairwise_map.2 (List.pairwise_of_forall fun _ _ => .inl rfl)
  · obtain ⟨c, -, rfl⟩ := List.mem_map.1 hx
    obtain ⟨c', -, rfl⟩ := List.mem_map.1 hy
    exact .inr h

/-- Of two statements about different tables, that comes first whose table precedes. -/
theorem lt_iff_precedes (hs : source.Coherent) (hd : desired.Coherent) {i j : Nat} {x y : Step}
    (hx : (between source desired).steps[i]? = some x)
    (hy : (between source desired).steps[j]? = some y) (hne : x.table ≠ y.table) :
    i < j ↔ source.Precedes x.table y.table := by
  have horder : ∀ {i j : Nat} {x y : Step}, (between source desired).steps[i]? = some x →
      (between source desired).steps[j]? = some y → x.table ≠ y.table → i < j →
      source.Precedes x.table y.table := by
    intro i j x y hx hy hne hlt
    obtain ⟨hi, rfl⟩ := List.getElem?_eq_some_iff.1 hx
    obtain ⟨hj, rfl⟩ := List.getElem?_eq_some_iff.1 hy
    exact (List.pairwise_iff_getElem.1 (steps_ordered hs hd) i j hi hj hlt).resolve_left hne
  refine ⟨horder hx hy hne, fun hprec => ?_⟩
  rcases Nat.lt_trichotomy i j with hlt | rfl | hgt
  · exact hlt
  · rw [hx] at hy
    exact absurd (congrArg Step.table (Option.some.inj hy)) hne
  · exact absurd hprec (horder hy hx hne.symm hgt).asymm

/-! ### What is done to one table -/

/-- The changes that a patch makes to a table, in order. -/
def changesTo (p : Patch) (table : QualifiedName) : List Change :=
  (p.blocks.filter fun b => b.table = table).flatMap Block.changes

/-- What is done to a table stands in its block. -/
theorem changesTo_of_mem (hs : source.Coherent) (hd : desired.Coherent) {b : Block}
    (hb : b ∈ (between source desired).blocks) :
    (between source desired).changesTo b.table = b.changes := by
  have hordered := (blocks_ordered hs hd).imp fun h => h.ne
  rw [changesTo]
  generalize (between source desired).blocks = l at hb hordered
  induction l with
  | nil => cases hb
  | cons a l ih =>
    obtain ⟨ha, hl⟩ := List.pairwise_cons.1 hordered
    rcases List.mem_cons.1 hb with rfl | hb
    · have hrest : l.filter (fun c => c.table = b.table) = [] :=
        List.filter_eq_nil_iff.2 fun c hc => by simpa using (ha c hc).symm
      simp [hrest]
    · rw [List.filter_cons_of_neg (by simpa using ha b hb)]
      exact ih hb hl

/-- The block of a table that is there before and after holds the changes between the two. -/
theorem changes_of_mem_blocks (hs : source.Coherent) (hd : desired.Coherent) {b : Block} {s d : Table}
    (hb : b ∈ (between source desired).blocks) (hbefore : source.table? b.table.sql = some s)
    (hafter : desired.table? b.table.sql = some d) : b.changes = s.changes d := by
  rcases List.mem_append.1 hb with hb | hb
  · obtain ⟨e, he, hblock⟩ := List.mem_filterMap.1 hb
    rw [table_ofPresent? hs hd he hblock] at hbefore hafter
    rw [hs.table?_of_mem he, Option.some.injEq] at hbefore
    subst hbefore
    simp only [Block.ofPresent?, hafter] at hblock
    split at hblock
    · cases hblock
    · cases hblock
      rfl
  · obtain ⟨t, ht, rfl⟩ := List.mem_map.1 hb
    obtain ⟨e, he, rfl⟩ := List.mem_map.1 ht
    obtain ⟨he, hnew⟩ := List.mem_filter.1 he
    have hid : e.2.name.sql = e.1 := hd.id_eq e he
    have hcontains : source.entries.contains e.1 = true := by
      rw [Keyed.contains, ← hid]
      exact congrArg Option.isSome hbefore
    simp [hcontains] at hnew

/-- What is done to a table that is there before and after are the changes between the two. -/
theorem changesTo_between (hs : source.Coherent) (hd : desired.Coherent) {table : QualifiedName}
    {s d : Table} (hbefore : source.table? table.sql = some s)
    (hafter : desired.table? table.sql = some d) :
    (between source desired).changesTo table = s.changes d := by
  cases hchanges : s.changes d with
  | nil =>
    refine List.flatMap_eq_nil_iff.2 fun b hb => ?_
    obtain ⟨hin, htable⟩ := List.mem_filter.1 hb
    obtain rfl := of_decide_eq_true htable
    rw [changes_of_mem_blocks hs hd hin hbefore hafter, hchanges]
  | cons x changes =>
    have hname : d.name = table :=
      QualifiedName.sql_injective (hd.id_eq (table.sql, d) (Keyed.mem_of_get? hafter))
    have hblock : Block.ofPresent? s (desired.table? table.sql) = some ⟨table, x :: changes⟩ := by
      simp [Block.ofPresent?, hafter, hchanges, hname]
    exact changesTo_of_mem hs hd (List.mem_append_left _
      (List.mem_filterMap.2 ⟨(table.sql, s), Keyed.mem_of_get? hbefore, hblock⟩))

end Patch

end SchemaPatch
