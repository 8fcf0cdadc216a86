import SchemaPatch.Proofs.Catalog.Projection
import SchemaPatch.Proofs.Patch.Agreement
import SchemaPatch.Proofs.Patch.Order

/-!
# Patches table by table

What a patch does to a table is settled by what the two catalogs hold under its name
(`Block.between?`), and the names alone settle the order (`Patch.Tablewise`). So tables that two
documents have in common have no part in the patch (`Patch.between_append_common`).
-/

namespace SchemaPatch

/-- The block of a table that is there before or after, if there is something to do. -/
def Block.between? : Option Table → Option Table → Option Block
  | some s, d => ofPresent? s d
  | none, some d => some (ofNew d)
  | none, none => none

/-- The texts by which the tables of a catalog are known, in order. -/
def Catalog.ids (c : Catalog) : List String := c.entries.keys

/-- The texts by which the tables are known that another catalog does not have, in order. -/
def Catalog.newIds (c old : Catalog) : List String :=
  c.ids.filter fun id => (old.table? id).isNone

/-- A patch goes table by table: first through those that were there, then through those that are
new, both in the order of their names. -/
structure Patch.Tablewise (source desired : Catalog) : Prop where
  /-- What is done to a table depends on what stands under its name before and after. -/
  blocks_eq : (between source desired).blocks = (source.ids ++ desired.newIds source).filterMap
    fun id => Block.between? (source.table? id) (desired.table? id)
  /-- The names come in order, first those that were there. -/
  sorted_source : source.ids.Pairwise (· < ·)
  /-- The new names come in order too. -/
  sorted_new : (desired.newIds source).Pairwise (· < ·)
  /-- What is done to a table stands in a block with its name. -/
  table_eq : ∀ id b, Block.between? (source.table? id) (desired.table? id) = some b → b.table.sql = id
  /-- There is no second block with the name. -/
  once : ((between source desired).blocks.map fun b => b.table.sql).Nodup

namespace Patch

variable {source desired : Catalog}

/-- What is done to a table stands in a block with its name. -/
theorem table_of_between? (hs : source.Coherent) (hd : desired.Coherent) {id : String} {b : Block}
    (hb : Block.between? (source.table? id) (desired.table? id) = some b) : b.table.sql = id := by
  cases hsource : source.table? id with
  | some s =>
    rw [hsource] at hb
    exact table_ofPresent? hs hd (Keyed.mem_of_get? hsource) hb
  | none =>
    cases hdesired : desired.table? id with
    | none => simp [hsource, hdesired, Block.between?] at hb
    | some d =>
      rw [hsource, hdesired, Block.between?, Option.some.injEq] at hb
      subst hb
      exact hd.id_eq (id, d) (Keyed.mem_of_get? hdesired)

theorem blocks_eq_filterMap (hs : source.Coherent) (hd : desired.Coherent) :
    (between source desired).blocks = (source.ids ++ desired.newIds source).filterMap
      fun id => Block.between? (source.table? id) (desired.table? id) := by
  have hold : source.entries.entries.filterMap (fun e => Block.ofPresent? e.2 (desired.table? e.1)) =
      source.ids.filterMap fun id => Block.between? (source.table? id) (desired.table? id) := by
    rw [Catalog.ids, Keyed.keys, List.filterMap_map]
    refine List.filterMap_congr fun e he => ?_
    rw [Function.comp_apply, hs.table?_of_mem he]
    rfl
  have hnew : (desired.entries.missingFrom source.entries).map Block.ofNew =
      (desired.newIds source).filterMap fun id =>
        Block.between? (source.table? id) (desired.table? id) := by
    rw [Catalog.newIds, Catalog.ids, Keyed.keys, List.filter_map, List.filterMap_map,
      Keyed.missingFrom, List.map_map, ← List.filterMap_eq_map]
    have hfilter : (desired.entries.entries.filter fun e => !source.entries.contains e.1) =
        desired.entries.entries.filter ((fun id => (source.table? id).isNone) ∘ Prod.fst) :=
      List.filter_congr fun e _ => by simp [Keyed.contains, Catalog.table?]
    rw [hfilter]
    refine List.filterMap_congr fun e he => ?_
    obtain ⟨he, hnone⟩ := List.mem_filter.1 he
    simp only [Function.comp_apply, Option.isNone_iff_eq_none] at hnone ⊢
    rw [hnone, hd.table?_of_mem he, Block.between?]
  rw [List.filterMap_append, ← hold, ← hnew]
  rfl

/-- A block is in a patch exactly if it is what is done to the table of its name. -/
theorem mem_blocks_iff (hs : source.Coherent) (hd : desired.Coherent) {b : Block} :
    b ∈ (between source desired).blocks ↔
      Block.between? (source.table? b.table.sql) (desired.table? b.table.sql) = some b := by
  rw [blocks_eq_filterMap hs hd, List.mem_filterMap]
  constructor
  · rintro ⟨id, -, hb⟩
    rwa [table_of_between? hs hd hb]
  · intro hb
    refine ⟨b.table.sql, ?_, hb⟩
    have hid : ∀ {c : Catalog} {id : String} {t : Table}, c.table? id = some t → id ∈ c.ids :=
      fun ht => List.mem_map_of_mem (Keyed.mem_of_get? ht)
    cases hsource : source.table? b.table.sql with
    | some s => exact List.mem_append_left _ (hid hsource)
    | none =>
      cases hdesired : desired.table? b.table.sql with
      | some d =>
        exact List.mem_append_right _ (List.mem_filter.2 ⟨hid hdesired, by rw [hsource]; rfl⟩)
      | none => simp [hsource, hdesired, Block.between?] at hb

/-- Every patch between coherent catalogs goes table by table. -/
theorem tablewise (hs : source.Coherent) (hd : desired.Coherent) : Tablewise source desired where
  blocks_eq := blocks_eq_filterMap hs hd
  sorted_source := hs.sorted
  sorted_new := hd.sorted.filter _
  table_eq _ _ := table_of_between? hs hd
  once := List.pairwise_map.2
    ((blocks_ordered hs hd).imp fun h heq => h.ne (QualifiedName.sql_injective heq))

/-- Catalogs of which the same stands under each name, as far as there is something to do, have the
same patch. -/
theorem between_congr {source' desired' : Catalog} (hs : source.Coherent) (hd : desired.Coherent)
    (hs' : source'.Coherent) (hd' : desired'.Coherent)
    (h : ∀ id, (source'.table? id = source.table? id ∧ desired'.table? id = desired.table? id) ∨
      (Block.between? (source'.table? id) (desired'.table? id) = none ∧
        Block.between? (source.table? id) (desired.table? id) = none)) :
    between source' desired' = between source desired := by
  have hmem : ∀ b, b ∈ (between source' desired').blocks ↔ b ∈ (between source desired).blocks := by
    intro b
    rw [mem_blocks_iff hs' hd', mem_blocks_iff hs hd]
    rcases h b.table.sql with ⟨hsource, hdesired⟩ | ⟨hnone', hnone⟩
    · rw [hsource, hdesired]
    · rw [hnone', hnone]
  -- Both patches are in the order of the first source, and such an order leaves no choice.
  have hsource : ∀ b ∈ (between source' desired').blocks,
      source'.table? b.table.sql = source.table? b.table.sql := by
    intro b hb
    rcases h b.table.sql with ⟨hsource, -⟩ | ⟨hnone, -⟩
    · exact hsource
    · rw [mem_blocks_iff hs' hd', hnone] at hb
      cases hb
  have hordered : (between source' desired').blocks.Pairwise
      fun b b' => source.Precedes b.table b'.table := by
    refine (blocks_ordered hs' hd').imp_of_mem fun hb hb' hlt => ?_
    rwa [Catalog.Precedes, hsource _ hb, hsource _ hb'] at hlt
  have : Std.Irrefl fun b b' : Block => source.Precedes b.table b'.table := ⟨fun _ h => h.ne rfl⟩
  have : Std.Antisymm fun b b' : Block => source.Precedes b.table b'.table :=
    ⟨fun _ _ h h' => absurd h' h.asymm⟩
  exact congrArg Patch.mk (hordered.eq_of_mem_iff (blocks_ordered hs hd) hmem)

end Patch

/-- Nothing is done to a table that is the same before and after. -/
theorem Block.between?_self {t : Option Table} (ht : ∀ t' ∈ t, t'.Coherent) :
    between? t t = none := by
  cases t with
  | none => rfl
  | some t =>
    have hnone : t.changes t = [] := Table.changes_of_view_eq (ht t rfl).columns.nodup rfl
    rw [between?, ofPresent?]
    simp only [hnone]

/-! ### Statements in common -/

namespace Catalog

variable {statements common : List Statement}

theorem concerning_append_of_isQualified (hc : ∀ s ∈ common, s.isQualified) (id : String) :
    concerning id (statements ++ common) =
      concerning id statements ++ common.filter (·.names id) := by
  rw [concerning, qualified, qualifiedBehind_append, qualifiedBehind_of_isQualified hc,
    List.filter_append]
  rfl

/-- Qualified statements leave a table as it is that none of them names. -/
theorem table?_build_append_of_names (hc : ∀ s ∈ common, s.isQualified) {id : String}
    (hid : ∀ s ∈ common, s.names id = false) :
    (build (statements ++ common)).table? id = (build statements).table? id := by
  have hnone : common.filter (·.names id) = [] :=
    List.filter_eq_nil_iff.2 fun s hs => by simp [hid s hs]
  rw [table?_build, table?_build, concerning_append_of_isQualified hc, hnone, List.append_nil]

/-- Qualified statements make the same table wherever there was none. -/
theorem table?_build_append_of_not_defines (hc : ∀ s ∈ common, s.isQualified) {id : String}
    (hid : ¬ Defines statements id) :
    (build (statements ++ common)).table? id = (build common).table? id := by
  have hnone : (build statements).table? id = none := by
    rwa [← isSome_table?_build_iff, Option.not_isSome_iff_eq_none] at hid
  rw [table?_build, concerning_append_of_isQualified hc, List.foldl_append, ← table?_build, hnone,
    table?_build_of_isQualified hc]

end Catalog

namespace Patch

open Catalog

/-- **Tables that two documents have in common have no part in the patch.** What is done to a table
depends on what stands under its name before and after, and nothing else does, so qualified statements
about tables that neither side creates otherwise can stand on both sides without being seen. -/
theorem between_append_common (source desired : List Statement) :
    Tablewise (build source) (build desired) ∧
      ∀ common : List Statement, (∀ s ∈ common, s.isQualified) →
        (∀ s ∈ common, ∀ n ∈ s.table?, ¬ Defines source n.sql ∧ ¬ Defines desired n.sql) →
          between (build (source ++ common)) (build (desired ++ common)) =
            between (build source) (build desired) := by
  refine ⟨tablewise (build_coherent source) (build_coherent desired), fun common hc hnew => ?_⟩
  refine between_congr (build_coherent _) (build_coherent _) (build_coherent _) (build_coherent _)
    fun id => ?_
  by_cases hid : ∃ s ∈ common, s.names id
  · obtain ⟨s, hs, hnames⟩ := hid
    obtain ⟨n, hn, rfl⟩ := Statement.names_iff.1 hnames
    obtain ⟨hsource, hdesired⟩ := hnew s hs n hn
    refine .inr ⟨?_, ?_⟩
    · rw [table?_build_append_of_not_defines hc hsource,
        table?_build_append_of_not_defines hc hdesired]
      exact Block.between?_self fun t ht =>
        (build_coherent common).table (n.sql, t) (Keyed.mem_of_get? ht)
    · rw [← isSome_table?_build_iff, Option.not_isSome_iff_eq_none] at hsource hdesired
      rw [hsource, hdesired]
      rfl
  · have hother : ∀ s ∈ common, s.names id = false := fun s hs =>
      Bool.eq_false_iff.2 fun hnames => hid ⟨s, hs, hnames⟩
    exact .inl ⟨table?_build_append_of_names hc hother, table?_build_append_of_names hc hother⟩

/-- The tables `a` and `c` of the schema `app`. -/
def tablesBefore : List Statement :=
  [.setSearchPath ⟨[.identifier ⟨"app"⟩]⟩, .createTable ⟨⟨none, ⟨"a"⟩⟩, [⟨⟨"x"⟩, .bigint, []⟩]⟩,
    .createTable ⟨⟨none, ⟨"c"⟩⟩, [⟨⟨"x"⟩, .bigint, []⟩]⟩]

/-- A changed `a`, and `d` in the place of `c`. -/
def tablesAfter : List Statement :=
  [.createTable ⟨⟨some ⟨"app"⟩, ⟨"d"⟩⟩, [⟨⟨"x"⟩, .bigint, []⟩]⟩,
    .createTable ⟨⟨some ⟨"app"⟩, ⟨"a"⟩⟩, [⟨⟨"y"⟩, .bigint, []⟩]⟩]

/-- The table `b` with an index and a constraint, and an index of a table that is nowhere. -/
def tablesInCommon : List Statement :=
  [.createTable ⟨⟨some ⟨"app"⟩, ⟨"b"⟩⟩, [⟨⟨"x"⟩, .bigint, []⟩]⟩,
    .createIndex ⟨false, false, false, some ⟨"i"⟩, ⟨some ⟨"app"⟩, ⟨"b"⟩⟩, none,
      [⟨.identifier ⟨"x"⟩, false⟩]⟩,
    .alterTable ⟨true, ⟨some ⟨"app"⟩, ⟨"b"⟩⟩, [.addConstraint ⟨some ⟨"k"⟩, .unique, [⟨"x"⟩]⟩]⟩,
    .createIndex ⟨false, false, false, some ⟨"j"⟩, ⟨some ⟨"app"⟩, ⟨"e"⟩⟩, none,
      [⟨.identifier ⟨"x"⟩, false⟩]⟩]

/-- The table `b` comes between tables that change, and is not seen. -/
theorem between_append_common_amongChanged :
    (∀ s ∈ tablesInCommon, s.isQualified) ∧
      (∀ s ∈ tablesInCommon, ∀ n ∈ s.table?,
        ¬ Defines tablesBefore n.sql ∧ ¬ Defines tablesAfter n.sql) ∧
      (between (build (tablesBefore ++ tablesInCommon))
        (build (tablesAfter ++ tablesInCommon))).blocks.map (·.table.name.value) = ["a", "c", "d"] ∧
      between (build (tablesBefore ++ tablesInCommon)) (build (tablesAfter ++ tablesInCommon)) =
        between (build tablesBefore) (build tablesAfter) := by
  have hqualified : ∀ s ∈ tablesInCommon, s.isQualified := by decide
  have hnew : ∀ s ∈ tablesInCommon, ∀ n ∈ s.table?,
      ¬ Defines tablesBefore n.sql ∧ ¬ Defines tablesAfter n.sql := by decide +kernel
  exact ⟨hqualified, hnew, by decide +kernel,
    (between_append_common tablesBefore tablesAfter).2 tablesInCommon hqualified hnew⟩

end Patch

end SchemaPatch
