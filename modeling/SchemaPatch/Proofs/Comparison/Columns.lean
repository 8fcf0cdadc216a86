import SchemaPatch.Comparison.Basic
import SchemaPatch.Proofs.Catalog.Definitions
import SchemaPatch.Proofs.Catalog.Legible
import SchemaPatch.Proofs.Document.RoundTrip
import SchemaPatch.Proofs.Patch.Alterations
import SchemaPatch.Proofs.Sql.Unambiguous

/-!
# Columns are compared exactly

A comparison sees types and default values as texts only. For columns of two documents this is as good
as comparing what was parsed (`Catalog.columns_compared`): a column gets another type exactly if the
types of its two definitions differ, and another default value exactly if their expressions differ. A
cast is said exactly where a type of text becomes one that the database does not convert to, although
this is found out by looking at the beginning of a text.
-/

namespace SchemaPatch

variable {S : Symbol → Prop}

/-! ### Casts -/

namespace DataType

/-- The types of text, of any length or of one that is given. -/
def isTextual : DataType → Bool
  | text | character _ _ => true
  | _ => false

/-- The types to which the database does not convert a text by itself. -/
def isOpaque : DataType → Bool
  | bytea | jsonb | uuid => true
  | _ => false

/-- The texts of the types of text are told apart from all others by how they begin. -/
theorem castSources_any_sql (t : DataType) :
    Column.castSources.any (Column.isTypeText · t.sql) = t.isTextual := by
  cases t with
  | numeric precision scale =>
    cases precision <;> cases scale <;>
      simp [Column.castSources, Column.isTypeText, List.isPrefixOf?, sql, isTextual]
  | character varying length =>
    cases varying <;> cases length <;>
      simp [Column.castSources, Column.isTypeText, List.isPrefixOf?, sql, isTextual]
  | timestamp withTimeZone => cases withTimeZone <;> decide
  | _ => decide

theorem castTargets_contains_sql {t : DataType} (ht : t.IsReadable) :
    Column.castTargets.contains t.sql = t.isOpaque := by
  have htargets : Column.castTargets = [bytea.sql, jsonb.sql, uuid.sql] := rfl
  rw [Bool.eq_iff_iff, htargets, List.contains_iff_mem]
  simp only [List.mem_cons, List.not_mem_nil, or_false, sql_inj ht (show bytea.IsReadable from trivial),
    sql_inj ht (show jsonb.IsReadable from trivial), sql_inj ht (show uuid.IsReadable from trivial)]
  cases t <;> simp [isOpaque]

/-- Looking at the texts of types finds the casts that are needed. -/
theorem needsCast_sql (t : DataType) {u : DataType} (hu : u.IsReadable) :
    Column.needsCast t.sql u.sql = (t.isTextual && u.isOpaque) := by
  rw [Column.needsCast, t.castSources_any_sql, castTargets_contains_sql hu]

end DataType

/-! ### Changes to one column -/

namespace ColumnDefinition

/-- The default value of a definition that can be read back can be read back. -/
theorem Readable.default {d : ColumnDefinition} (hd : d.Readable S) :
    ∀ e ∈ d.default?, e.Readable S := by
  intro e he
  obtain ⟨k, hk, hke⟩ := List.mem_filterMap.1 (List.mem_of_getLast? he)
  have hreadable := hd.constraints k hk
  cases k with
  | default value =>
    cases hke
    exact hreadable
  | _ => cases hke

/-- Default values are told apart by their texts, and from none. -/
theorem default_sql_inj {x y : ColumnDefinition} (hx : x.Readable Symbol.Survives)
    (hy : y.Readable Symbol.Survives) :
    x.default?.map Expression.sql = y.default?.map Expression.sql ↔ x.default? = y.default? := by
  have hxs := hx.default
  have hys := hy.default
  cases hxd : x.default? with
  | none => simp [eq_comm]
  | some e =>
    cases hyd : y.default? with
    | none => simp
    | some f => simp [Expression.sql_inj (hxs e hxd) (hys f hyd)]

end ColumnDefinition

/-- The column that a change defines in another way, if it is one that both tables have. -/
def Change.redefined? : Change → Option Identifier
  | setType column _ _ | setNotNull column _ | setInlineDefault column _ => some column
  | _ => none

namespace Column

variable {a b : Column} {x y : ColumnDefinition}

/-- What differs between two columns is changed, and nothing else. -/
theorem mem_changes_iff {c : Change} : c ∈ a.changes b ↔
    (a.type ≠ b.type ∧ c = .setType b.name b.type (needsCast a.type b.type)) ∨
      (a.notNull ≠ b.notNull ∧ c = .setNotNull b.name b.notNull) ∨
      (a.default ≠ b.default ∧ c = .setInlineDefault b.name b.default) := by
  have hone : ∀ {p : Prop} [Decidable p] {d : Change},
      c ∈ (if p then [] else [d]) ↔ ¬ p ∧ c = d := by
    intro p _ d
    split <;> simp_all
  simp only [changes, List.mem_append, hone, or_assoc, ne_eq]

theorem redefined?_of_mem_changes {c : Change} (hc : c ∈ a.changes b) : c.redefined? = some b.name := by
  rcases mem_changes hc with rfl | rfl | rfl <;> rfl

/-- Of a column that is as one definition says and becomes what another one says, the type changes as
the parsed types do. -/
theorem setType_mem_changes_iff (ha : a.type = x.type.sql) (hb : b.type = y.type.sql)
    (hx : x.type.IsReadable) (hy : y.type.IsReadable) {type : String} {cast : Bool} :
    .setType b.name type cast ∈ a.changes b ↔
      x.type ≠ y.type ∧ type = y.type.sql ∧ cast = (x.type.isTextual && y.type.isOpaque) := by
  simp [mem_changes_iff, ha, hb, x.type.needsCast_sql hy, DataType.sql_inj hx hy]

/-- The default value changes as the parsed expressions do. -/
theorem setInlineDefault_mem_changes_iff (ha : a.default = x.default?.map Expression.sql)
    (hb : b.default = y.default?.map Expression.sql) (hx : x.Readable Symbol.Survives)
    (hy : y.Readable Symbol.Survives) {value : Option String} :
    .setInlineDefault b.name value ∈ a.changes b ↔
      x.default? ≠ y.default? ∧ value = y.default?.map Expression.sql := by
  simp [mem_changes_iff, ha, hb, ColumnDefinition.default_sql_inj hx hy]

end Column

/-- What defines a column of both tables in another way turns the one column into the other. -/
theorem Table.mem_changes_iff {source desired : Table} (hs : source.Coherent) (hd : desired.Coherent)
    {column : Identifier} {a b : Column} (ha : source.columns.get? column.value = some a)
    (hb : desired.columns.get? column.value = some b) {x : Change} (hx : x.redefined? = some column) :
    x ∈ source.changes desired ↔ x ∈ a.changes b := by
  have hpaired : x ∈ source.changes desired ↔
      ∃ p ∈ source.columns.pairedWith desired.columns, x ∈ p.1.changes p.2 := by
    cases x <;> simp_all [changes, columnChanges, indexChanges, constraintChanges, defaultChanges,
      Change.redefined?]
  rw [hpaired]
  constructor
  · -- The pair is that of the column which is changed, as each name comes once.
    rintro ⟨p, hp, hxp⟩
    obtain ⟨e, he, hpe⟩ := List.mem_filterMap.1 hp
    obtain ⟨c, hc, rfl⟩ := Option.map_eq_some_iff.1 hpe
    have hname : c.name.value = e.1 := hd.columns.name_eq (e.1, c) (Keyed.mem_of_get? hc)
    have hcolumn : c.name = column :=
      Option.some.inj ((Column.redefined?_of_mem_changes hxp).symm.trans hx)
    rw [hcolumn] at hname
    have hea := Keyed.get?_of_mem hs.columns.nodup he
    rw [← hname, ha] at hea
    rw [← hname, hb] at hc
    cases hea
    cases hc
    exact hxp
  · intro hxab
    refine ⟨(a, b), List.mem_filterMap.2 ⟨(column.value, a), Keyed.mem_of_get? ha, ?_⟩, hxab⟩
    rw [hb]
    rfl

/-! ### Two documents -/

namespace Catalog

/-- A column of a document has a definition that can be read back, and its type and default value are
the texts of what this definition says. -/
theorem exists_definition (name text : String) {id column : String} {t : Table}
    (ht : (Document.ofText name text).catalog.table? id = some t)
    (hcolumn : t.columns.contains column) :
    ∃ d c, definition? (Document.ofText name text).statements id column = some d ∧
      t.columns.get? column = some c ∧ d.Readable Symbol.Survives ∧ c.name.value = column ∧
      c.type = d.type.sql ∧ c.default = d.default?.map Expression.sql := by
  have hmem : (id, t) ∈ (Document.ofText name text).catalog.entries.entries := Keyed.mem_of_get? ht
  have hfiled := (build_filed (Document.ofText name text).statements []).1.table (id, t) hmem
  obtain ⟨c, hc⟩ := Option.isSome_iff_exists.1 hcolumn
  obtain ⟨d, hd, hview⟩ := hfiled.column_eq (column, c) (Keyed.mem_of_get? hc)
  have hcreation : creation? (Document.ofText name text).statements id = some t.statement := by
    rw [← statement_table?_build, ← Document.catalog, ht]
    rfl
  have hreadable := build_legible (Document.readable_statements name text) (id, t) hmem
  refine ⟨d, c, ?_, hc, hreadable.definitions d ?_, hfiled.columns.name_eq _ (Keyed.mem_of_get? hc),
    congrArg Column.type hview, congrArg Column.default hview⟩
  · rw [definition?, hcreation]
    exact hd
  · exact (List.mem_filter.1 (List.mem_of_getLast? hd)).1

variable {s d : Table} {column : Identifier}

/-- **Columns are compared exactly.** Of a column that a table of two documents has in both, the type
is changed exactly if the parsed types differ, with a cast exactly if a type of text becomes one that
the database does not convert to, and the default value is changed exactly if the parsed expressions
differ, where one of them may be missing. -/
theorem columns_compared (name name' source desired : String) {id : String}
    (hs : (Document.ofText name source).catalog.table? id = some s)
    (hd : (Document.ofText name' desired).catalog.table? id = some d)
    (hsource : s.columns.contains column.value) (hdesired : d.columns.contains column.value) :
    ∃ x y, definition? (Document.ofText name source).statements id column.value = some x ∧
      definition? (Document.ofText name' desired).statements id column.value = some y ∧
      (∀ type cast, .setType column type cast ∈ s.changes d ↔
        x.type ≠ y.type ∧ type = y.type.sql ∧ cast = (x.type.isTextual && y.type.isOpaque)) ∧
      ∀ value, .setInlineDefault column value ∈ s.changes d ↔
        x.default? ≠ y.default? ∧ value = y.default?.map Expression.sql := by
  obtain ⟨x, a, hx, ha, hxr, -, hatype, hadefault⟩ := exists_definition name source hs hsource
  obtain ⟨y, b, hy, hb, hyr, hbname, hbtype, hbdefault⟩ := exists_definition name' desired hd hdesired
  have hcs := (build_coherent _).table _ (Keyed.mem_of_get? hs)
  have hcd := (build_coherent _).table _ (Keyed.mem_of_get? hd)
  obtain rfl : b.name = column := Identifier.eq_iff.2 hbname
  refine ⟨x, y, hx, hy, fun type cast => ?_, fun value => ?_⟩
  · rw [Table.mem_changes_iff hcs hcd ha hb rfl]
    exact Column.setType_mem_changes_iff hatype hbtype hxr.type hyr.type
  · rw [Table.mem_changes_iff hcs hcd ha hb rfl]
    exact Column.setInlineDefault_mem_changes_iff hadefault hbdefault hxr hyr

/-- A table with a column of text that has a default value. -/
def textColumn : String := "CREATE TABLE t (a character varying(36) DEFAULT lower('A'), b bigint);"

/-- The same table, where the column gets another type and is spelled in another way. -/
def uuidColumn : String := "CREATE TABLE public.t (a UUID DEFAULT lower ( 'A' ), b bigint);"

/-- The text by which this table is known. -/
def retypedTable : String := (QualifiedName.mk ⟨"public"⟩ ⟨"t"⟩).sql

/-- The type of the column changes with a cast, and its default value does not change. -/
theorem columns_compared_uuidColumn : ∃ s d,
    (Document.ofText "old" textColumn).catalog.table? retypedTable = some s ∧
      (Document.ofText "new" uuidColumn).catalog.table? retypedTable = some d ∧
      s.columns.contains "a" ∧ d.columns.contains "a" ∧
      .setType ⟨"a"⟩ "uuid" true ∈ s.changes d ∧
      ∀ value, .setInlineDefault ⟨"a"⟩ value ∉ s.changes d := by
  have hold : ∀ t ∈ (Document.ofText "old" textColumn).catalog.table? retypedTable,
      t.columns.contains "a" := by decide +kernel
  have hnew : ∀ t ∈ (Document.ofText "new" uuidColumn).catalog.table? retypedTable,
      t.columns.contains "a" := by decide +kernel
  have hdefinitions :
      ∀ x ∈ definition? (Document.ofText "old" textColumn).statements retypedTable "a",
      ∀ y ∈ definition? (Document.ofText "new" uuidColumn).statements retypedTable "a",
        x.type = .character true (some 36) ∧ y.type = .uuid ∧ x.default? = y.default? := by
    decide +kernel
  obtain ⟨s, hs⟩ := Option.isSome_iff_exists.1 (show ((Document.ofText "old" textColumn).catalog.table?
    retypedTable).isSome by decide +kernel)
  obtain ⟨d, hd⟩ := Option.isSome_iff_exists.1 (show ((Document.ofText "new" uuidColumn).catalog.table?
    retypedTable).isSome by decide +kernel)
  obtain ⟨x, y, hx, hy, htype, hdefault⟩ := columns_compared "old" "new" textColumn uuidColumn hs hd
    (show s.columns.contains (Identifier.mk "a").value from hold s hs) (hnew d hd)
  obtain ⟨hxtype, hytype, hsame⟩ := hdefinitions x hx y hy
  refine ⟨s, d, hs, hd, hold s hs, hnew d hd, (htype _ _).2 ?_, fun value h => ?_⟩
  · rw [hxtype, hytype]
    decide
  · exact ((hdefault value).1 h).1 hsame

end Catalog

end SchemaPatch
