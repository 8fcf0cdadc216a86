import SchemaPatch.Proofs.Patch.Order

/-!
# Indexes that move to another table

An index that is removed from one table and created on another one should be removed first, for its
name is taken until then. A patch goes by the order of the tables and not by what needs what. So the
index is removed first if the other table is new or has the greater name, and else too late
(`Patch.Moves.lt_iff`), even if in both catalogs each index stands at one table only
(`Patch.exists_moves_not_lt`).
-/

namespace SchemaPatch

/-- Whether a statement of a patch from a catalog removes an index of a name: it drops the index, or
the table that has it. -/
def Step.removesIndex (c : Catalog) (index : Identifier) (s : Step) : Bool :=
  match s.change with
  | .dropIndex name => name = index
  | .dropTable => (c.table? s.table.sql).any fun t => t.indexes.contains index.value
  | _ => false

/-- Whether a statement of a patch creates an index of a name. -/
def Step.createsIndex (index : Identifier) (s : Step) : Bool :=
  match s.change with
  | .createIndex i => i.statement.name = some index
  | _ => false

/-- In each schema, an index name stands at one table only. -/
def Catalog.IndexesUnique (c : Catalog) : Prop :=
  ∀ t ∈ c.tables, ∀ t' ∈ c.tables, t.name.schema = t'.name.schema →
    ∀ index ∈ t.indexes.keys, index ∈ t'.indexes.keys → t.name = t'.name

instance (c : Catalog) : Decidable c.IndexesUnique :=
  inferInstanceAs (Decidable (∀ t ∈ c.tables, ∀ t' ∈ c.tables, t.name.schema = t'.name.schema →
    ∀ index ∈ t.indexes.keys, index ∈ t'.indexes.keys → t.name = t'.name))

namespace Patch

/-- Statement `i` of the patch between two catalogs removes an index from table `a`, and statement
`j` creates one of its name on another table `b`. -/
structure Moves (source desired : Catalog) (index : Identifier) (a b : QualifiedName) (i j : Nat) :
    Prop where
  removed : ((between source desired).steps[i]?).any fun s => s.table = a && s.removesIndex source index
  created : ((between source desired).steps[j]?).any fun s => s.table = b && s.createsIndex index
  ne : a ≠ b

variable {source desired : Catalog}

/-- A patch drops indexes only from tables that were there. -/
theorem isSome_of_removesIndex (hs : source.Coherent) (hd : desired.Coherent) {x : Step}
    {index : Identifier} (hx : x ∈ (between source desired).steps)
    (hremoves : x.removesIndex source index) : (source.table? x.table.sql).isSome := by
  obtain ⟨b, hb, hxb⟩ := List.mem_flatMap.1 hx
  obtain ⟨c, hc, rfl⟩ := List.mem_map.1 hxb
  rcases List.mem_append.1 hb with hb | hb
  · obtain ⟨e, he, hb⟩ := List.mem_filterMap.1 hb
    exact isSome_of_ofPresent? hs hd he hb
  · obtain ⟨t, -, rfl⟩ := List.mem_map.1 hb
    cases c with
    | dropTable =>
      obtain ⟨s, hs, -⟩ := (Option.any_eq_true _ _).1 hremoves
      rw [hs]
      rfl
    | dropIndex name =>
      have hnot : ∀ c : Column, .dropIndex name ∉ Table.sequenceChanges c := fun c => by
        cases hsequence : c.sequence <;> simp [Table.sequenceChanges, hsequence]
      simp [Block.ofNew, Table.creation, hnot] at hc
    | _ => cases hremoves

/-- **An index that moves is removed first exactly if the table that gets it is new or has a greater
name than the one that loses it.** -/
theorem Moves.lt_iff (before after : List Statement) {index : Identifier} {a b : QualifiedName}
    {i j : Nat} (h : Moves (Catalog.build before) (Catalog.build after) index a b i j) :
    i < j ↔ (Catalog.build before).table? b.sql = none ∨ a.sql < b.sql := by
  have hs := Catalog.build_coherent before
  have hd := Catalog.build_coherent after
  obtain ⟨x, hx, hremoved⟩ := (Option.any_eq_true _ _).1 h.removed
  obtain ⟨y, hy, hcreated⟩ := (Option.any_eq_true _ _).1 h.created
  simp only [Bool.and_eq_true, decide_eq_true_eq] at hremoved hcreated
  obtain ⟨rfl, hremoves⟩ := hremoved
  obtain ⟨rfl, -⟩ := hcreated
  rw [lt_iff_precedes hs hd hx hy h.ne]
  exact Catalog.precedes_iff_of_isSome
    (isSome_of_removesIndex hs hd (List.mem_of_getElem? hx) hremoves)

/-- Two tables, `a` and `b`, one of which has the index `i`. -/
def indexed (table : Identifier) : List Statement :=
  let x : ColumnDefinition := ⟨⟨"x"⟩, .bigint, []⟩
  [.createTable ⟨⟨none, ⟨"a"⟩⟩, [x]⟩, .createTable ⟨⟨none, ⟨"b"⟩⟩, [x]⟩,
    .createIndex ⟨false, false, false, some ⟨"i"⟩, ⟨none, table⟩, none, [⟨.identifier x.name, false⟩]⟩]

/-- From the first table to the second, the index is removed before it is created. -/
theorem Moves.lt_iff_indexed :
    Moves (Catalog.build (indexed ⟨"a"⟩)) (Catalog.build (indexed ⟨"b"⟩)) ⟨"i"⟩
      ⟨⟨"public"⟩, ⟨"a"⟩⟩ ⟨⟨"public"⟩, ⟨"b"⟩⟩ 0 1 ∧
    (0 < 1 ↔ (Catalog.build (indexed ⟨"a"⟩)).table? (QualifiedName.mk ⟨"public"⟩ ⟨"b"⟩).sql = none ∨
      (QualifiedName.mk ⟨"public"⟩ ⟨"a"⟩).sql < (QualifiedName.mk ⟨"public"⟩ ⟨"b"⟩).sql) := by
  have h : Moves (Catalog.build (indexed ⟨"a"⟩)) (Catalog.build (indexed ⟨"b"⟩)) ⟨"i"⟩
      ⟨⟨"public"⟩, ⟨"a"⟩⟩ ⟨⟨"public"⟩, ⟨"b"⟩⟩ 0 1 :=
    ⟨by decide +kernel, by decide +kernel, by decide +kernel⟩
  exact ⟨h, Moves.lt_iff (indexed ⟨"a"⟩) (indexed ⟨"b"⟩) h⟩

/-- There are catalogs in which each index stands at one table, and between which one moves that is
created before it is removed. -/
theorem exists_moves_not_lt : ¬ ∀ before after : List Statement,
    (Catalog.build before).IndexesUnique → (Catalog.build after).IndexesUnique →
    ∀ (index : Identifier) (a b : QualifiedName) (i j : Nat),
      Moves (Catalog.build before) (Catalog.build after) index a b i j → a.schema = b.schema →
      i < j := by
  intro h
  have hmoves : Moves (Catalog.build (indexed ⟨"b"⟩)) (Catalog.build (indexed ⟨"a"⟩)) ⟨"i"⟩
      ⟨⟨"public"⟩, ⟨"b"⟩⟩ ⟨⟨"public"⟩, ⟨"a"⟩⟩ 1 0 :=
    ⟨by decide +kernel, by decide +kernel, by decide +kernel⟩
  have hlt := h (indexed ⟨"b"⟩) (indexed ⟨"a"⟩) (by decide +kernel) (by decide +kernel) _ _ _ _ _
    hmoves rfl
  exact Nat.not_lt_zero 1 hlt

end Patch

end SchemaPatch
