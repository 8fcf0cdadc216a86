import Mathlib.Data.List.Induction
import SchemaPatch.Proofs.Catalog.Coherent
import SchemaPatch.Proofs.Catalog.Resolution

/-!
# How a catalog files its tables

In whatever order statements come, the catalog that they leave has each table under its own text, with
the columns that the statement of the table defines, each by its last definition, and everything else
under its own name (`Table.FiledUnder`). This holds behind every statement of a run
(`Catalog.build_filed`).
-/

namespace SchemaPatch

/-- The definition of a column that counts: the last one with its name. -/
def ColumnDefinition.last? (name : String) (definitions : List ColumnDefinition) :
    Option ColumnDefinition :=
  (definitions.filter fun d => d.name.value = name).getLast?

/-- A table as it has to be where a catalog has it under a text. -/
structure Table.FiledUnder (id : String) (t : Table) : Prop where
  /-- The text is that of the table. -/
  id_eq : t.id = id
  /-- The statement says the schema of the table. -/
  schema_eq : t.statement.table.schema = some t.name.schema
  /-- The name that the statement says is the text. -/
  sql_eq : t.statement.table.sql = id
  /-- The columns are those of the statement, in the order in which their names first come. -/
  columns_eq : t.columns.keys = (t.statement.columns.map (·.name.value)).eraseDups
  /-- A column is as its last definition says, apart from a sequence that is attached to it. -/
  column_eq : ∀ e ∈ t.columns.entries, ∃ d, ColumnDefinition.last? e.1 t.statement.columns = some d ∧
    { e.2 with sequence := none } = .ofDefinition d
  /-- Each column stands under its own name. -/
  columns : t.columns.Named (·.name.value)
  /-- Each index stands under its own name. -/
  indexes : t.indexes.Named (·.name.value)
  /-- Each constraint stands under its own name. -/
  constraints : t.constraints.Named (·.name.value)
  /-- Each explicit default stands under the name of its column. -/
  defaults : t.defaults.Named (·.column.value)
  /-- The statement of an index says its name. -/
  index_name : ∀ e ∈ t.indexes.entries, e.2.statement.name = some e.2.name
  /-- The statement of an index says the whole name of the table. -/
  index_table : ∀ e ∈ t.indexes.entries,
    e.2.statement.table.schema.isSome ∧ e.2.statement.table.sql = id

/-- A catalog as statements leave it: the tables come in order, each as it has to be, and the statement
of each is one of these statements with the whole name of the table. -/
structure Catalog.FiledFrom (statements : List Statement) (c : Catalog) : Prop where
  sorted : c.entries.Sorted
  table : ∀ e ∈ c.entries.entries, e.2.FiledUnder e.1
  statement : ∀ e ∈ c.entries.entries, .createTable e.2.statement ∈ qualified statements

/-! ### The columns of a statement -/

/-- A name at the end of a list is new there or not. -/
theorem eraseDups_concat (l : List String) (a : String) :
    (l ++ [a]).eraseDups = if a ∈ l then l.eraseDups else l.eraseDups ++ [a] := by
  rw [List.eraseDups_append]
  split
  · next ha => simp [List.removeAll, ha]
  · next ha => simp [List.removeAll, ha, List.eraseDups_cons]

namespace Table

theorem columnsOf_concat (definitions : List ColumnDefinition) (d : ColumnDefinition) :
    columnsOf (definitions ++ [d]) =
      (columnsOf definitions).put d.name.value (.ofDefinition d) :=
  List.foldl_append ..

/-- The names of columns come in the order of their first definitions. -/
theorem keys_columnsOf (definitions : List ColumnDefinition) :
    (columnsOf definitions).keys = (definitions.map (·.name.value)).eraseDups := by
  induction definitions using List.reverseRecOn with
  | nil => rfl
  | append_singleton definitions d ih =>
    rw [columnsOf_concat, Keyed.keys_put, ih, List.map_append, List.map_singleton, eraseDups_concat]
    simp only [List.mem_eraseDups]

/-- Of the definitions of a name the last one counts. -/
theorem get?_columnsOf (definitions : List ColumnDefinition) (name : String) :
    (columnsOf definitions).get? name =
      (ColumnDefinition.last? name definitions).map .ofDefinition := by
  induction definitions using List.reverseRecOn with
  | nil => rfl
  | append_singleton definitions d ih =>
    rw [columnsOf_concat, Keyed.get?_put, ih, ColumnDefinition.last?, ColumnDefinition.last?,
      List.filter_append, List.getLast?_append]
    by_cases hd : d.name.value = name <;> simp [hd]

/-- The first definition gives a column its place, the last one everything else. -/
example : (columnsOf [⟨⟨"a"⟩, .bigint, []⟩, ⟨⟨"b"⟩, .bigint, []⟩, ⟨⟨"a"⟩, .text, [.notNull]⟩]).entries =
    [("a", ⟨⟨"a"⟩, "text", true, none, none⟩), ("b", ⟨⟨"b"⟩, "bigint", false, none, none⟩)] := rfl

/-- A column that is seen as a definition says, under its name, is as the definition says. -/
theorem eq_ofDefinition {c : Column} {d : ColumnDefinition} (hname : c.name = d.name)
    (hview : c.view = (Column.ofDefinition d).view) :
    { c with sequence := none } = Column.ofDefinition d := by
  obtain ⟨htype, hnull, hdefault⟩ := ColumnView.mk.inj hview
  simp only [Column.ofDefinition] at *
  rw [hname, htype, hnull, hdefault]

/-- The statement of a new table is the one that creates it, with the whole name. -/
theorem statement_ofStatement {s : CreateTable} (hs : (Statement.createTable s).isQualified)
    (schema : Identifier) : (ofStatement schema s).statement = s :=
  Statement.createTable.inj (Option.some.inj (Statement.qualified?_of_isQualified hs schema))

end Table

namespace Catalog

/-! ### What a run keeps -/

/-- What holds of new tables, and what edits keep, holds of every table in the end. -/
theorem table_induction {l : List Statement} {Q : Table → Prop}
    (hcreate : ∀ schema s, .createTable s ∈ l → Q (.ofStatement schema s))
    (hedit : ∀ {schema s table f}, s ∈ l → Edits schema s table f → ∀ t, Q t → Q (f t)) :
    ∀ e ∈ (build l).entries.entries, Q e.2 := by
  refine build_induction (P := fun c => ∀ e ∈ c.entries.entries, Q e.2) ?_ ?_ ?_
  · simp [empty, Keyed.empty]
  · intro schema s hs c hc e he
    rcases Keyed.mem_putSorted he with rfl | he
    · exact hcreate schema s hs
    · exact hc e he
  · intro schema s table f hs hf c hc e he
    rcases Keyed.mem_modify he with he | ⟨t, ht, rfl⟩
    · exact hc e he
    · exact hedit hs hf t (hc (table.sql, t) ht)

/-- No edit brings columns or takes them away, so they stay those that the definitions define. -/
theorem columns_keys_build (statements : List Statement) :
    ∀ e ∈ (build statements).entries.entries,
      e.2.columns.keys = (Table.columnsOf e.2.definitions).keys := by
  refine table_induction (Q := fun t => t.columns.keys = (Table.columnsOf t.definitions).keys)
    (fun _ _ _ => rfl) fun _ hf t ht => ?_
  cases hf with
  | sequence s => exact (Keyed.keys_modify ..).trans ht
  | _ => exact ht

/-- No edit changes the statement of a table, which stays the one that created it. -/
theorem statement_mem_qualified (statements : List Statement) :
    ∀ e ∈ (build statements).entries.entries, .createTable e.2.statement ∈ qualified statements := by
  rw [build, ← fold_qualified, ← build]
  refine table_induction (Q := fun t => .createTable t.statement ∈ qualified statements) ?_ ?_
  · intro schema s hs
    rwa [Table.statement_ofStatement (isQualified_of_mem_qualifiedBehind hs)]
  · intro schema s table f _ hf t ht
    cases hf with
    | _ => exact ht

/-! ### Every table is filed -/

theorem filedUnder_of_coherent {c : Catalog} (hc : c.Coherent) {e : String × Table}
    (he : e ∈ c.entries.entries) (hkeys : e.2.columns.keys = (Table.columnsOf e.2.definitions).keys) :
    e.2.FiledUnder e.1 where
  id_eq := hc.id_eq e he
  schema_eq := rfl
  sql_eq := hc.id_eq e he
  columns_eq := hkeys.trans (Table.keys_columnsOf _)
  column_eq x hx := by
    have hcolumns := (hc.table e he).columns
    have hview := congrFun (hc.table e he).defined x.1
    rw [Column.views, Column.views, Keyed.get?_of_mem hcolumns.nodup hx, Table.get?_columnsOf] at hview
    cases hlast : ColumnDefinition.last? x.1 e.2.definitions with
    | none => simp [hlast] at hview
    | some d =>
      rw [hlast] at hview
      have hname : d.name.value = x.1 :=
        of_decide_eq_true (List.mem_filter.1 (List.mem_of_getLast? hlast)).2
      refine ⟨d, hlast, Table.eq_ofDefinition ?_ (Option.some.inj hview)⟩
      exact congrArg Identifier.mk ((hcolumns.name_eq x hx).trans hname.symm)
  columns := (hc.table e he).columns
  indexes := (hc.table e he).indexes
  constraints := (hc.table e he).constraints
  defaults := (hc.table e he).defaults
  index_name := (hc.table e he).indexName
  index_table x hx := by
    rw [(hc.table e he).indexTable x hx]
    exact ⟨rfl, hc.id_eq e he⟩

theorem runAll_append (c : Catalog) (before l m : List Statement) :
    (c.runAll (schemaInForce before) (l ++ m)).1 =
      ((c.runAll (schemaInForce before) l).1.runAll (schemaInForce (before ++ l)) m).1 := by
  induction l generalizing c before with
  | nil => rw [List.append_nil]; rfl
  | cons s l ih =>
    rw [List.cons_append, runAll, runAll, ← schemaInForce_concat, ih, List.append_assoc]
    rfl

/-- **Behind every statement the tables are filed as they have to be**, whatever the statements before
it are and whatever comes after it. -/
theorem build_filed (before after : List Statement) :
    (build before).FiledFrom before ∧
      build (before ++ after) = ((build before).runAll (schemaInForce before) after).1 :=
  ⟨{ sorted := (build_coherent before).sorted
     table := fun e he =>
       filedUnder_of_coherent (build_coherent before) he (columns_keys_build before e he)
     statement := statement_mem_qualified before },
   runAll_append empty [] before after⟩

end Catalog

end SchemaPatch
