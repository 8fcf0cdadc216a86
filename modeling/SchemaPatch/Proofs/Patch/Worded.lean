import SchemaPatch.Proofs.Patch.Altering

/-!
# Patches are worded throughout

Each step of a patch between legible catalogs is worded, as a statement of the language or as an
altering statement that can be read back (`Patch.worded_of_mem_blocks`). So the text of every change
is lexed to symbols of its own: those that it has by itself, whatever stands behind it
(`Step.Worded.standsAlone`).
-/

namespace SchemaPatch

/-! ### Steps that are worded -/

/-- A step of a patch is worded as a statement or as an altering statement that can be read back. -/
def Step.Worded (x : Step) : Prop :=
  (∃ s : Statement, x.Means s ∧ s.Readable Symbol.Survives) ∨
    ∃ a : AlteringStatement, x.Alters a ∧ a.Readable

namespace Step.Worded

variable {x : Step}

theorem means {s : Statement} (h : x.Means s) (hs : s.Readable Symbol.Survives) : x.Worded :=
  .inl ⟨s, h, hs⟩

theorem alters {a : AlteringStatement} (h : x.Alters a) (ha : a.Readable) : x.Worded :=
  .inr ⟨a, h, ha⟩

end Step.Worded

/-- A column whose type and default value are texts of what can be read back. -/
structure Column.Legible (c : Column) : Prop where
  type : ∃ t : DataType, t.IsReadable ∧ c.type = t.sql
  default : ∃ value : Option Expression, (∀ e ∈ value, e.Readable Symbol.Survives) ∧
    c.default = value.map Expression.sql

theorem Column.legible_ofDefinition {d : ColumnDefinition} (h : d.Readable Symbol.Survives) :
    (ofDefinition d).Legible where
  type := ⟨d.type, h.type, rfl⟩
  default := by
    refine ⟨d.default?, fun e he => ?_, rfl⟩
    obtain ⟨k, hk, hke⟩ := List.mem_filterMap.1 (List.mem_of_getLast? he)
    have hreadable := h.constraints k hk
    cases k with
    | default value =>
      cases hke
      exact hreadable
    | _ => cases hke

namespace Step.Worded

variable (table : QualifiedName)

theorem setType (column : Identifier) {type : String} (cast : Bool)
    (h : ∃ t : DataType, t.IsReadable ∧ type = t.sql) :
    Worded ⟨table, .setType column type cast⟩ := by
  obtain ⟨t, ht, rfl⟩ := h
  have hconversion : ∀ e ∈ if cast then some (Change.conversion column t) else none,
      e.Readable Symbol.Survives := by
    intro e he
    cases cast <;> cases he
    exact Change.readable_conversion column ht
  exact .alters (.setType table column t cast) ⟨ht, hconversion⟩

theorem setInlineDefault (column : Identifier) {default : Option String}
    (h : ∃ value : Option Expression, (∀ e ∈ value, e.Readable Symbol.Survives) ∧
      default = value.map Expression.sql) :
    Worded ⟨table, .setInlineDefault column default⟩ := by
  obtain ⟨value, hvalue, rfl⟩ := h
  exact .alters (.setInlineDefault table column value) hvalue

theorem addColumn {c : Column} (h : c.Legible) : Worded ⟨table, .addColumn c⟩ := by
  obtain ⟨name, type, notNull, default, sequence⟩ := c
  obtain ⟨⟨t, ht, rfl⟩, value, hvalue, rfl⟩ := h
  refine .alters (.addColumn table name t value notNull sequence) ⟨⟨ht, fun k hk => ?_⟩, ?_⟩
  · rcases List.mem_append.1 hk with hk | hk
    · obtain ⟨e, he, rfl⟩ := List.mem_map.1 hk
      exact hvalue e (Option.mem_toList.1 he)
    · cases notNull <;> simp at hk
      rw [hk]
      trivial
  · cases value <;> cases notNull <;> rfl

end Step.Worded

/-! ### Changes between tables -/

namespace Table

variable {source desired : Table}

/-- The columns of a legible table are legible, as they are seen like those of its definitions. -/
theorem Legible.columns (hl : desired.Legible Symbol.Survives) (hc : desired.Coherent)
    {e : String × Column} (he : e ∈ desired.columns.entries) : e.2.Legible := by
  have hview := congrFun hc.defined e.1
  rw [Column.views, Keyed.get?_of_mem hc.columns.nodup he] at hview
  obtain ⟨c, hget, heq⟩ := Option.map_eq_some_iff.1 hview.symm
  obtain ⟨d, hd, rfl⟩ := mem_columnsOf (Keyed.mem_of_get? hget)
  obtain ⟨htype, -, hdefault⟩ := ColumnView.mk.inj heq
  have hlegible := Column.legible_ofDefinition (hl.definitions d hd)
  exact ⟨htype ▸ hlegible.type, hdefault ▸ hlegible.default⟩

theorem worded_of_mem_columnChanges (hl : desired.Legible Symbol.Survives) (hc : desired.Coherent)
    {x : Change} (hx : x ∈ source.columnChanges desired) : Step.Worded ⟨desired.name, x⟩ := by
  simp only [columnChanges, List.mem_append, List.mem_map, List.mem_flatMap] at hx
  rcases hx with (⟨c, -, rfl⟩ | ⟨p, hp, hx⟩) | ⟨c, hc', rfl⟩
  · exact .alters (.dropColumn desired.name c.name) trivial
  · obtain ⟨e, -, hpe⟩ := List.mem_filterMap.1 hp
    obtain ⟨c, hget, rfl⟩ := Option.map_eq_some_iff.1 hpe
    have hlegible : c.Legible := hl.columns hc (Keyed.mem_of_get? hget)
    rcases Column.mem_changes hx with rfl | rfl | rfl
    · exact .setType desired.name c.name _ hlegible.type
    · exact .alters (.setNotNull desired.name c.name _) trivial
    · exact .setInlineDefault desired.name c.name hlegible.default
  · obtain ⟨e, he, rfl⟩ := List.mem_map.1 (Keyed.missingFrom_subset _ _ hc')
    exact .addColumn desired.name (hl.columns hc he)

/-- Each change between tables is worded if the table to come is legible. -/
theorem worded_of_mem_changes (hl : desired.Legible Symbol.Survives) (hc : desired.Coherent)
    {x : Change} (hx : x ∈ source.changes desired) : Step.Worded ⟨desired.name, x⟩ := by
  simp only [changes, indexChanges, constraintChanges, defaultChanges, List.mem_append,
    List.mem_map] at hx
  rcases hx with ((hx | ⟨i, -, rfl⟩ | ⟨i, hi, rfl⟩) | ⟨c, -, rfl⟩ | ⟨c, hc', rfl⟩) | ⟨d, -, rfl⟩ |
    ⟨d, hd, rfl⟩
  · exact worded_of_mem_columnChanges hl hc hx
  · exact .alters (.dropIndex desired.name i.name) trivial
  · obtain ⟨e, he, rfl⟩ := List.mem_map.1 (Keyed.missingFrom_subset _ _ hi)
    exact .means (.createIndex (hc.indexName _ he) (hc.indexTable _ he)) (hl.indexes _ he)
  · exact .alters (.dropConstraint desired.name c.name) trivial
  · obtain ⟨e, he, rfl⟩ := List.mem_map.1 (Keyed.missingFrom_subset _ _ hc')
    exact .means (.addConstraint desired.name e.2)
      (Change.readable_addConstraint desired.name (hl.constraints e he))
  · exact .alters (.dropDefault desired.name d.column)
      (show ∀ e ∈ (none : Option Expression), e.Readable Symbol.Survives by simp)
  · obtain ⟨⟨k, column, text⟩, he, rfl⟩ := List.mem_map.1 (Keyed.missingFrom_subset _ _ hd)
    obtain ⟨value, hvalue, htext⟩ := hl.defaults _ he
    cases htext
    exact .means (.setDefault desired.name column value)
      (Change.readable_setDefault desired.name column hvalue)

end Table

/-! ### Patches -/

namespace Patch

variable {source desired : Catalog}

/-- **Each step of a patch is worded** if the catalog to come is legible. -/
theorem worded_of_mem_blocks (hc : desired.Coherent) (hl : desired.Legible Symbol.Survives)
    {b : Block} (hb : b ∈ (between source desired).blocks) {x : Change} (hx : x ∈ b.changes) :
    Step.Worded ⟨b.table, x⟩ := by
  rcases List.mem_append.1 hb with hb | hb
  · obtain ⟨⟨id, t⟩, -, hblock⟩ := List.mem_filterMap.1 hb
    simp only [Block.ofPresent?] at hblock
    split at hblock
    · cases hblock
      rw [List.mem_singleton.1 hx]
      exact .alters (.dropTable t.name) trivial
    · next t' hthere =>
      have he := Keyed.mem_of_get? hthere
      split at hblock
      · cases hblock
      · cases hblock
        exact Table.worded_of_mem_changes (hl _ he) (hc.table _ he) hx
  · obtain ⟨t, ht, rfl⟩ := List.mem_map.1 hb
    obtain ⟨e, he, rfl⟩ := List.mem_map.1 ht
    have he := (List.mem_filter.1 he).1
    exact .inl (Table.means_creation (hc.table e he) (hl e he) x hx)

end Patch

/-! ### Texts that stand alone -/

/-- What nothing goes on with does not break off. -/
theorem LexesTo.kind_ne {text : String} {xs : List Symbol} (h : LexesTo text xs) :
    ∀ x ∈ xs, x.kind ≠ .unterminated :=
  kind_ne_of_symbols_eq (h [';']) (by simp)

/-- Whatever follows it, the text is lexed to the symbols that it has by itself. -/
def StandsAlone (text : String) : Prop := LexesTo text (symbols text.toList)

theorem LexesTo.standsAlone {text : String} {xs : List Symbol} (h : LexesTo text xs) :
    StandsAlone text := by
  rw [StandsAlone, h.symbols_eq]
  exact h

theorem Step.Worded.standsAlone {x : Step} (h : x.Worded) : StandsAlone (x.change.sql x.table) := by
  rcases h with ⟨s, hmeans, hs⟩ | ⟨a, halters, ha⟩
  · exact (hmeans.tells hs).lexes.standsAlone
  · exact (halters.lexes ha).standsAlone

end SchemaPatch
