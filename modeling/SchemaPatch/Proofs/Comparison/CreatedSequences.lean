import SchemaPatch.Proofs.Catalog.Attachments
import SchemaPatch.Proofs.Comparison.Sequences
import SchemaPatch.Proofs.Patch.Alterations

/-!
# Sequences that a patch creates

A patch creates a sequence for each column of a new table to which one is attached, in the schema of
the table. So it creates no sequence twice exactly if no two of these columns have sequences of one
name in one schema (`Comparison.createdSequences_nodup_iff`). This need not be so: if statements
attach a sequence to one column and then to another one, both are left with it.
-/

namespace SchemaPatch

/-- A sequence that is attached to a column of a table. -/
structure Attachment where
  /-- The table. -/
  table : QualifiedName
  /-- The column. -/
  column : Identifier
  /-- The sequence. -/
  sequence : Identifier
  deriving DecidableEq, Repr

namespace Attachment

/-- The name of the sequence, with the schema of the table. -/
def sequenceName (a : Attachment) : QualifiedName := ⟨a.table.schema, a.sequence⟩

/-- Statements attach a sequence last to a column of a table that others do not create. -/
def Comes (source desired : List Statement) (a : Attachment) : Prop :=
  Catalog.AttachesLast a.table.sql a.column.value a.sequence (Catalog.qualified desired) ∧
    ¬ Catalog.Defines source a.table.sql

end Attachment

/-- The sequences that are attached to the columns of a table. -/
def Table.attachments (t : Table) : List Attachment :=
  t.columns.values.filterMap fun c => c.sequence.map fun sequence => ⟨t.name, c.name, sequence⟩

/-- The sequence that a step of a patch creates. -/
def Step.createdSequence? : Step → Option QualifiedName
  | ⟨table, .createSequence sequence⟩ => some ⟨table.schema, sequence⟩
  | _ => none

/-- The sequences that a patch creates, in order. -/
def Patch.createdSequences (p : Patch) : List QualifiedName := p.steps.filterMap Step.createdSequence?

/-! ### The steps that create sequences -/

/-- The changes between two tables are not about sequences. -/
theorem Table.isSequence_of_mem_changes {source desired : Table} {x : Change}
    (hx : x ∈ source.changes desired) : x.isSequence = false := by
  simp only [changes, columnChanges, indexChanges, constraintChanges, defaultChanges,
    List.mem_append, List.mem_map, List.mem_flatMap] at hx
  rcases hx with (((((⟨_, _, rfl⟩ | ⟨_, _, hx⟩) | ⟨_, _, rfl⟩) | (⟨_, _, rfl⟩ | ⟨_, _, rfl⟩)) |
    (⟨_, _, rfl⟩ | ⟨_, _, rfl⟩)) | (⟨_, _, rfl⟩ | ⟨_, _, rfl⟩))
  case inl.inl.inl.inl.inr =>
    rcases Column.mem_changes hx with rfl | rfl | rfl <;> rfl
  all_goals rfl

theorem Step.createdSequence?_of_isSequence {x : Step} (h : x.change.isSequence = false) :
    x.createdSequence? = none := by
  obtain ⟨table, change⟩ := x
  cases change with
  | createSequence _ => cases h
  | _ => rfl

namespace Block

/-- For a table that was there no sequence is created. -/
theorem createdSequences_ofPresent? {source : Table} {desired : Option Table} {b : Block}
    (h : ofPresent? source desired = some b) : b.steps.filterMap Step.createdSequence? = [] := by
  refine List.filterMap_eq_nil_iff.2 fun x hx => Step.createdSequence?_of_isSequence ?_
  obtain ⟨c, hc, rfl⟩ := List.mem_map.1 hx
  cases desired with
  | none =>
    cases h
    rw [List.mem_singleton.1 hc]
    rfl
  | some t =>
    simp only [ofPresent?] at h
    split at h
    · cases h
    · cases h
      exact Table.isSequence_of_mem_changes hc

/-- For a new table a sequence is created for each column that has one. -/
theorem createdSequences_ofNew (t : Table) :
    (ofNew t).steps.filterMap Step.createdSequence? = t.attachments.map Attachment.sequenceName := by
  have hone : ∀ c : Column,
      ((Table.sequenceChanges c).map (Step.mk t.name)).filterMap Step.createdSequence? =
        (c.sequence.map (QualifiedName.mk t.name.schema)).toList := by
    intro c
    cases hc : c.sequence <;> simp [Table.sequenceChanges, hc, Step.createdSequence?]
  have hnone : ∀ {β : Type} {f : β → Change} (l : List β), (∀ b, (f b).isSequence = false) →
      ((l.map f).map (Step.mk t.name)).filterMap Step.createdSequence? = [] := by
    intro β f l hf
    refine List.filterMap_eq_nil_iff.2 fun x hx => Step.createdSequence?_of_isSequence ?_
    obtain ⟨c, hc, rfl⟩ := List.mem_map.1 hx
    obtain ⟨b, -, rfl⟩ := List.mem_map.1 hc
    exact hf b
  have hsequences : ((t.columns.values.flatMap Table.sequenceChanges).map
      (Step.mk t.name)).filterMap Step.createdSequence? =
        t.attachments.map Attachment.sequenceName := by
    rw [List.map_flatMap, List.filterMap_flatMap, Table.attachments, List.map_filterMap,
      List.filterMap_eq_flatMap_toList]
    refine List.flatMap_congr fun c _ => ?_
    rw [hone, Option.map_map]
    rfl
  rw [steps, ofNew, Table.creation, List.map_append, List.map_append, List.map_append,
    List.map_cons, List.filterMap_append, List.filterMap_append, List.filterMap_append,
    List.filterMap_cons_none rfl, hsequences, hnone t.indexes.values fun _ => rfl,
    hnone t.constraints.values fun _ => rfl, hnone t.defaults.values fun _ => rfl]
  simp

end Block

namespace Patch

variable {source desired : Catalog}

/-- A patch creates the sequences of the columns of the new tables. -/
theorem createdSequences_between : (between source desired).createdSequences =
    ((desired.entries.missingFrom source.entries).flatMap Table.attachments).map
      Attachment.sequenceName := by
  have hold : (source.entries.entries.filterMap fun e =>
      Block.ofPresent? e.2 (desired.table? e.1)).flatMap
        (fun b => b.steps.filterMap Step.createdSequence?) = [] := by
    refine List.flatMap_eq_nil_iff.2 fun b hb => ?_
    obtain ⟨e, -, he⟩ := List.mem_filterMap.1 hb
    exact Block.createdSequences_ofPresent? he
  rw [createdSequences, steps, List.filterMap_flatMap, between, List.flatMap_append, hold,
    List.nil_append, List.flatMap_map, List.map_flatMap]
  exact List.flatMap_congr fun t _ => Block.createdSequences_ofNew t

end Patch

/-! ### The sequences of new tables -/

/-- No two values have one name. -/
theorem Keyed.Named.values_pairwise {β : Type} {name : β → String} {m : Keyed β}
    (h : m.Named name) : m.values.Pairwise fun v v' => name v ≠ name v' := by
  have hkeys : m.values.map name = m.keys := by
    rw [values, keys, List.map_map]
    exact List.map_congr_left h.name_eq
  exact List.pairwise_map.1 (hkeys ▸ h.nodup)

namespace Catalog

variable {source desired : Catalog}

/-- The sequences of the columns of new tables are those that are attached there. -/
theorem mem_attachments_iff (hd : desired.Coherent) (a : Attachment) :
    a ∈ (desired.entries.missingFrom source.entries).flatMap Table.attachments ↔
      desired.link? a.table.sql a.column.value = some a.sequence ∧
        source.table? a.table.sql = none := by
  have hnamed : desired.entries.Named Table.id := ⟨hd.sorted.nodup, hd.id_eq⟩
  simp only [List.mem_flatMap, hnamed.mem_missingFrom, Table.attachments, List.mem_filterMap,
    Option.map_eq_some_iff]
  constructor
  · rintro ⟨t, ⟨ht, hnew⟩, c, hc, sequence, hsequence, rfl⟩
    exact ⟨(link?_of_mem hd ht hc).trans hsequence,
      by simpa [Keyed.contains, Catalog.table?, Table.id] using hnew⟩
  · rintro ⟨hlink, hnew⟩
    obtain ⟨c, hbind, hsequence⟩ := Option.bind_eq_some_iff.1 hlink
    obtain ⟨t, ht, hc⟩ := Option.bind_eq_some_iff.1 hbind
    have htmem := Keyed.mem_of_get? ht
    have hcmem := Keyed.mem_of_get? hc
    have htable : t.name = a.table := QualifiedName.sql_injective (hd.id_eq (_, t) htmem)
    have hcolumn : c.name = a.column :=
      congrArg Identifier.mk ((hd.table (_, t) htmem).columns.name_eq (_, c) hcmem)
    refine ⟨t, ⟨List.mem_map_of_mem htmem, ?_⟩, c, List.mem_map_of_mem hcmem, a.sequence,
      hsequence, by rw [htable, hcolumn]⟩
    rw [Table.id, htable, Keyed.contains]
    exact congrArg Option.isSome hnew

/-- No column of a new table is met twice. -/
theorem attachments_nodup (hd : desired.Coherent) :
    ((desired.entries.missingFrom source.entries).flatMap Table.attachments).Nodup := by
  have hnamed : desired.entries.Named Table.id := ⟨hd.sorted.nodup, hd.id_eq⟩
  refine List.nodup_flatMap.2 ⟨fun t ht => ?_, ?_⟩
  · obtain ⟨e, he, rfl⟩ := List.mem_map.1 (Keyed.missingFrom_subset _ _ ht)
    refine (hd.table e he).columns.values_pairwise.filterMap _ ?_
    rintro c c' hne a ha a' ha' rfl
    obtain ⟨_, -, rfl⟩ := Option.map_eq_some_iff.1 ha
    obtain ⟨_, -, heq⟩ := Option.map_eq_some_iff.1 ha'
    exact hne (congrArg (·.column.value) heq).symm
  · refine (hnamed.values_pairwise.sublist (List.filter_sublist.map Prod.snd)).imp ?_
    rintro t t' hne a ha ha'
    obtain ⟨_, -, hc⟩ := List.mem_filterMap.1 ha
    obtain ⟨_, -, rfl⟩ := Option.map_eq_some_iff.1 hc
    obtain ⟨_, -, hc'⟩ := List.mem_filterMap.1 ha'
    obtain ⟨_, -, heq⟩ := Option.map_eq_some_iff.1 hc'
    exact hne (congrArg (·.table.sql) heq).symm

end Catalog

namespace Comparison

/-- **A patch creates the sequences that come with new tables, and none of them twice exactly if no
two of these attachments are of sequences of one name.** -/
theorem createdSequences_nodup_iff (first second source desired : String)
    (hsource : (Document.ofText first source).isClean)
    (hdesired : (Document.ofText second desired).isClean) :
    ∃ p, patch ⟨.ofText first source, .ofText second desired⟩ = .ok p ∧
      (∀ name, name ∈ p.createdSequences ↔ ∃ a : Attachment, a.Comes
        (Document.ofText first source).statements (Document.ofText second desired).statements ∧
          a.sequenceName = name) ∧
      (p.createdSequences.Nodup ↔ ∀ a b : Attachment,
        a.Comes (Document.ofText first source).statements (Document.ofText second desired).statements →
        b.Comes (Document.ofText first source).statements (Document.ofText second desired).statements →
          a.sequenceName = b.sequenceName → a = b) := by
  let before := Catalog.build (Document.ofText first source).statements
  let after := Catalog.build (Document.ofText second desired).statements
  have hcoherent : after.Coherent := Catalog.build_coherent _
  have hcomes : ∀ a : Attachment,
      a ∈ (after.entries.missingFrom before.entries).flatMap Table.attachments ↔
        a.Comes (Document.ofText first source).statements
          (Document.ofText second desired).statements := by
    intro a
    rw [Catalog.mem_attachments_iff hcoherent, Attachment.Comes, Catalog.link?_build_iff,
      ← Catalog.isSome_table?_build_iff, Option.not_isSome_iff_eq_none]
  refine ⟨.between before after,
    patch_of_errors_eq_nil (List.isEmpty_iff.1 hsource) (List.isEmpty_iff.1 hdesired), ?_, ?_⟩
  · intro name
    rw [Patch.createdSequences_between, List.mem_map]
    exact exists_congr fun a => and_congr_left fun _ => hcomes a
  · rw [Patch.createdSequences_between, List.nodup_map_iff_inj_on (Catalog.attachments_nodup hcoherent)]
    simp only [hcomes]
    exact ⟨fun h a b ha hb => h a ha b hb, fun h a ha b hb => h a b ha hb⟩

/-- A sequence is attached to one column of a table and then to another one. -/
def repointedText : String := "CREATE TABLE t (a bigint, b bigint);\n" ++
  "ALTER SEQUENCE s OWNED BY t.a;\nALTER SEQUENCE s OWNED BY t.b;"

/-- A sequence that is attached to two columns one after the other is created twice. -/
theorem createdSequences_repointed : (Document.ofText "old" "").isClean ∧
    (Document.ofText "new" repointedText).isClean ∧
      ∃ p, patch ⟨.ofText "old" "", .ofText "new" repointedText⟩ = .ok p ∧
        (⟨⟨"public"⟩, ⟨"s"⟩⟩ : QualifiedName) ∈ p.createdSequences ∧ ¬ p.createdSequences.Nodup := by
  have hsource : (Document.ofText "old" "").isClean := by decide +kernel
  have hdesired : (Document.ofText "new" repointedText).isClean := by decide +kernel
  let attachment (column : String) : Attachment := ⟨⟨⟨"public"⟩, ⟨"t"⟩⟩, ⟨column⟩, ⟨"s"⟩⟩
  have hnew : ¬ Catalog.Defines (Document.ofText "old" "").statements
      (QualifiedName.mk ⟨"public"⟩ ⟨"t"⟩).sql := by decide +kernel
  have hcomes : ∀ column ∈ ["a", "b"], (attachment column).Comes (Document.ofText "old" "").statements
      (Document.ofText "new" repointedText).statements := by
    intro column hcolumn
    have hlink : (Catalog.build (Document.ofText "new" repointedText).statements).link?
        (attachment column).table.sql column = some ⟨"s"⟩ := by
      revert column
      decide +kernel
    exact ⟨(Catalog.link?_build_iff _ _ _ _).1 hlink, hnew⟩
  obtain ⟨p, hpatch, hmem, hiff⟩ :=
    createdSequences_nodup_iff "old" "new" "" repointedText hsource hdesired
  refine ⟨hsource, hdesired, p, hpatch, (hmem _).2 ⟨attachment "a", hcomes "a" (by simp), rfl⟩, ?_⟩
  intro hnodup
  have hsame : attachment "a" = attachment "b" :=
    hiff.1 hnodup _ _ (hcomes "a" (by simp)) (hcomes "b" (by simp)) rfl
  exact absurd hsame (by decide)

end Comparison

end SchemaPatch
