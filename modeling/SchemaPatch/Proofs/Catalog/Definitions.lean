import SchemaPatch.Proofs.Catalog.Filed
import SchemaPatch.Proofs.Catalog.Projection

/-!
# The definitions that count

A table says what the last statement that creates it says (`Catalog.statement_table?_build`), so the
definition of a column that counts is the last one of its name in this statement.
-/

namespace SchemaPatch

/-- The creation of the table that is known by a text, if a statement is one. -/
def Statement.created? (id : String) : Statement → Option CreateTable
  | .createTable s => if s.table.sql = id then some s else none
  | _ => none

theorem Statement.created?_eq_none {id : String} {s : Statement} (h : s.names id = false) :
    s.created? id = none := by
  cases s with
  | createTable s => exact if_neg (of_decide_eq_false h)
  | _ => rfl

/-- What a statement leaves of the table that it names says what the statement creates, or else what
the table said before. -/
theorem Statement.statement_perform {schema : Identifier} {id : String} {s : Statement}
    (hs : s.isQualified) (hnames : s.names id) (t : Option Table) :
    (s.perform schema t).map Table.statement = (s.created? id).or (t.map Table.statement) := by
  cases s with
  | createTable s =>
    have hid : s.table.sql = id := of_decide_eq_true hnames
    simp only [perform, created?, hid, if_true, Option.map_some, Option.some_or,
      Table.statement_ofStatement hs]
  | createIndex s =>
    cases hname : s.name with
    | none => simp [perform, created?, hname]
    | some name =>
      simp only [perform, created?, hname, Option.map_map, Option.none_or]
      rfl
  | alterTable s =>
    have hactions : ∀ (actions : List AlterAction) (t : Table),
        (actions.foldl (fun t a => a.perform t) t).statement = t.statement := by
      intro actions
      induction actions with
      | nil => exact fun _ => rfl
      | cons a actions ih =>
        intro t
        rw [List.foldl_cons, ih]
        cases a with
        | addConstraint c => obtain ⟨_ | name, kind, columns⟩ := c <;> rfl
        | setDefault column value => rfl
    simp [perform, created?, Function.comp_def, hactions]
  | ownSequence s =>
    simp only [perform, created?, Option.map_map, Option.none_or]
    rfl
  | _ => simp [perform, created?]

namespace Catalog

/-- The last statement that creates the table which is known by a text. -/
def creation? (statements : List Statement) (id : String) : Option CreateTable :=
  ((qualified statements).filterMap (Statement.created? id)).getLast?

/-- The definition of a column that counts: where its table is created last, the last one of its name.
-/
def definition? (statements : List Statement) (id column : String) : Option ColumnDefinition :=
  (creation? statements id).bind fun s => ColumnDefinition.last? column s.columns

/-- The statement of a table is the last one that creates it. -/
theorem statement_table?_build (statements : List Statement) (id : String) :
    ((build statements).table? id).map Table.statement = creation? statements id := by
  have hfold : ∀ l : List Statement, (∀ s ∈ l, s.isQualified) → (∀ s ∈ l, s.names id) →
      (l.foldl (fun t s => s.perform publicSchema t) none).map Table.statement =
        (l.filterMap (Statement.created? id)).getLast? := by
    intro l
    induction l using List.reverseRecOn with
    | nil => exact fun _ _ => rfl
    | append_singleton l s ih =>
      intro hqualified hnames
      obtain ⟨hlq, hsq⟩ := List.forall_mem_append.1 hqualified
      obtain ⟨hln, hsn⟩ := List.forall_mem_append.1 hnames
      rw [List.foldl_append, List.foldl_cons, List.foldl_nil,
        Statement.statement_perform (hsq s List.mem_cons_self) (hsn s List.mem_cons_self),
        ih hlq hln, List.filterMap_append, List.getLast?_append]
      cases hcreated : s.created? id <;> simp [hcreated]
  have hfilter : (concerning id statements).filterMap (Statement.created? id) =
      (qualified statements).filterMap (Statement.created? id) := by
    rw [concerning, List.filterMap_filter]
    refine List.filterMap_congr fun s _ => ?_
    split
    · rfl
    · next hnames => exact (Statement.created?_eq_none (Bool.eq_false_iff.2 hnames)).symm
  rw [table?_build, hfold _ (fun _ => isQualified_of_mem_concerning) (fun _ => names_of_mem_concerning),
    hfilter, creation?]

/-- The columns that a catalog has in a table are those that have a definition. -/
theorem isSome_definition?_iff {statements : List Statement} {id column : String} :
    (definition? statements id column).isSome ↔
      ∃ t, (build statements).table? id = some t ∧ t.columns.contains column := by
  rw [definition?, ← statement_table?_build]
  cases ht : (build statements).table? id with
  | none => simp
  | some t =>
    have hmem : (id, t) ∈ (build statements).entries.entries := Keyed.mem_of_get? ht
    have hkeys := columns_keys_build statements (id, t) hmem
    have hcontains : t.columns.contains column = (Table.columnsOf t.definitions).contains column := by
      rw [Bool.eq_iff_iff, ← Bool.not_eq_false, ← Bool.not_eq_false, Keyed.contains_eq_false_iff,
        Keyed.contains_eq_false_iff, hkeys]
    have hlast : (Table.columnsOf t.definitions).contains column =
        (ColumnDefinition.last? column t.definitions).isSome := by
      rw [Keyed.contains, Table.get?_columnsOf, Option.isSome_map]
    simp [hcontains, hlast, Table.statement]

end Catalog

end SchemaPatch
