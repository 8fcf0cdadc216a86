import SchemaPatch.Patch.Basic

/-!
# Qualified names

A name without a schema belongs to the schema in force, which is the last that a search path before
it has named (`Catalog.schemaInForce`). `Catalog.qualified` writes this schema into the names of
tables and leaves out the search paths, on which nothing depends any more. What remains leaves the
same catalog and the same notices (`Catalog.fold_qualified`), and can stand for the original in every
comparison (`Catalog.build_qualified`).
-/

namespace SchemaPatch

namespace ObjectName

/-- A name that has a schema needs no default. -/
theorem withSchema_of_isSome {n : ObjectName} (h : n.schema.isSome) (schema : Identifier) :
    n.withSchema schema = n := by
  obtain ⟨_ | own, name⟩ := n
  · cases h
  · rfl

theorem resolve_sql (n : ObjectName) (schema : Identifier) :
    (n.resolve schema).sql = (n.withSchema schema).sql := rfl

end ObjectName

namespace Statement

/-- The name of the table that a statement creates, is about or changes. -/
def table? : Statement → Option ObjectName
  | .createTable s => some s.table
  | .createIndex s => some s.table
  | .ownSequence s => some s.table
  | .alterTable s => some s.table
  | _ => none

/-- Whether a statement sets the search path. -/
def setsPath : Statement → Bool
  | .setSearchPath _ => true
  | _ => false

/-- The schema that a statement makes the default, if it names one. -/
def schemaSet? : Statement → Option Identifier
  | .setSearchPath s => s.firstSchema?
  | _ => none

/-- Whether a statement says all of its table's name and does not change how others are read. -/
def isQualified (s : Statement) : Bool := !s.setsPath && s.table?.all fun n => n.schema.isSome

/-- A statement with the whole name of its table, where `schema` is the default. Nothing takes the
place of a search path. -/
def qualified? (schema : Identifier) : Statement → Option Statement
  | .createTable s => some (.createTable { s with table := s.table.withSchema schema })
  | .createIndex s => some (.createIndex { s with table := s.table.withSchema schema })
  | .ownSequence s => some (.ownSequence { s with table := s.table.withSchema schema })
  | .alterTable s => some (.alterTable { s with table := s.table.withSchema schema })
  | .setSearchPath _ => none
  | s => some s

variable {s s' : Statement} {schema : Identifier}

theorem qualified?_eq_none_iff : s.qualified? schema = none ↔ s.setsPath = true := by
  cases s <;> simp [qualified?, setsPath]

theorem isQualified_of_qualified? (h : s.qualified? schema = some s') : s'.isQualified := by
  cases s with
  | setSearchPath _ => cases h
  | _ =>
    cases h
    rfl

theorem table?_of_qualified? (h : s.qualified? schema = some s') :
    s'.table? = s.table?.map (·.withSchema schema) := by
  cases s with
  | setSearchPath _ => cases h
  | _ =>
    cases h
    rfl

theorem qualified?_of_isQualified (h : s.isQualified) (schema : Identifier) :
    s.qualified? schema = some s := by
  cases s with
  | setSearchPath _ => cases h
  | createSchema _ | createSequence _ => rfl
  | _ => simp [qualified?, ObjectName.withSchema_of_isSome h]

end Statement

namespace Catalog

/-- The schema of names without one behind statements: the last that a search path has named, or
`public`. -/
def schemaInForce (before : List Statement) : Identifier :=
  (before.filterMap Statement.schemaSet?).getLast?.getD publicSchema

/-- Statements with the whole names of their tables and without search paths, where `before` comes
before them. -/
def qualifiedBehind (before : List Statement) : List Statement → List Statement
  | [] => []
  | s :: rest =>
    (s.qualified? (schemaInForce before)).toList ++ qualifiedBehind (before ++ [s]) rest

/-- Statements with the whole names of their tables and without search paths. -/
def qualified (statements : List Statement) : List Statement := qualifiedBehind [] statements

/-- Statements that can stand for others: they leave the same catalog, and the patches from it and to
it are the same. -/
structure Interchangeable (statements others : List Statement) : Prop where
  build_eq : build statements = build others
  patch_from : ∀ c, Patch.between (build statements) c = Patch.between (build others) c
  patch_to : ∀ c, Patch.between c (build statements) = Patch.between c (build others)

theorem Interchangeable.of_build_eq {statements others : List Statement}
    (h : build statements = build others) : Interchangeable statements others where
  build_eq := h
  patch_from c := by rw [h]
  patch_to c := by rw [h]

/-! ### The schema in force -/

/-- The schema in force is the one that the run over the statements has at hand. -/
theorem schemaInForce_concat (before : List Statement) (s : Statement) :
    schemaInForce (before ++ [s]) = schemaBehind (schemaInForce before) s := by
  cases s with
  | setSearchPath s =>
    cases hfirst : s.firstSchema? <;>
      simp [schemaInForce, schemaBehind, Statement.schemaSet?, hfirst]
  | _ => simp [schemaInForce, schemaBehind, Statement.schemaSet?]

/-- Statements that set no search path leave the schema in force as it is. -/
theorem schemaInForce_append {l : List Statement} (hl : ∀ s ∈ l, s.setsPath = false)
    (before : List Statement) : schemaInForce (before ++ l) = schemaInForce before := by
  have hnone : l.filterMap Statement.schemaSet? = [] := by
    refine List.filterMap_eq_nil_iff.2 fun s hs => ?_
    cases s with
    | setSearchPath _ => cases hl _ hs
    | _ => rfl
  rw [schemaInForce, List.filterMap_append, hnone, List.append_nil, schemaInForce]

theorem qualifiedBehind_append (before l m : List Statement) :
    qualifiedBehind before (l ++ m) = qualifiedBehind before l ++ qualifiedBehind (before ++ l) m := by
  induction l generalizing before with
  | nil => simp [qualifiedBehind]
  | cons s l ih => simp [qualifiedBehind, ih]

/-- Of what comes before them, statements are qualified by the schema in force only. -/
theorem qualifiedBehind_congr {before before' : List Statement}
    (h : schemaInForce before = schemaInForce before') (l : List Statement) :
    qualifiedBehind before l = qualifiedBehind before' l := by
  induction l generalizing before before' with
  | nil => rfl
  | cons s l ih =>
    have hnext : schemaInForce (before ++ [s]) = schemaInForce (before' ++ [s]) := by
      rw [schemaInForce_concat, schemaInForce_concat, h]
    rw [qualifiedBehind, qualifiedBehind, h, ih hnext]

/-- Statements that set no search path are qualified by one schema, and what is behind them is
qualified as if they were not there. -/
theorem qualified_around {l : List Statement} (hl : ∀ s ∈ l, s.setsPath = false)
    (before after : List Statement) : qualified (before ++ l ++ after) =
      qualified before ++ l.filterMap (·.qualified? (schemaInForce before)) ++
        qualifiedBehind before after := by
  have hbetween : qualifiedBehind before l = l.filterMap (·.qualified? (schemaInForce before)) := by
    induction l generalizing before with
    | nil => rfl
    | cons s l ih =>
      obtain ⟨hs, hl⟩ := List.forall_mem_cons.1 hl
      have hone := schemaInForce_append (l := [s]) (by simpa using hs) before
      rw [qualifiedBehind, qualifiedBehind_congr hone, ih hl]
      cases h : s.qualified? (schemaInForce before) <;> simp [h]
  rw [qualified, qualifiedBehind_append, qualifiedBehind_append, List.nil_append, List.nil_append,
    hbetween, qualifiedBehind_congr (schemaInForce_append hl before)]
  rfl

/-- Qualified statements stay as they are. -/
theorem qualifiedBehind_of_isQualified {l : List Statement} (hl : ∀ s ∈ l, s.isQualified)
    (before : List Statement) : qualifiedBehind before l = l := by
  induction l generalizing before with
  | nil => rfl
  | cons s l ih =>
    obtain ⟨hs, hl⟩ := List.forall_mem_cons.1 hl
    rw [qualifiedBehind, Statement.qualified?_of_isQualified hs, ih hl]
    rfl

/-! ### Qualified statements do the same -/

/-- A qualified statement does under any default what the statement does under its own. -/
theorem run_of_qualified? {s s' : Statement} {schema : Identifier}
    (h : s.qualified? schema = some s') (c : Catalog) (default : Identifier) :
    c.run default s' = c.run schema s := by
  cases s with
  | setSearchPath _ => cases h
  | _ =>
    cases h
    rfl

/-- A search path does nothing to a catalog. -/
theorem run_of_setsPath {s : Statement} (h : s.setsPath) (c : Catalog) (schema : Identifier) :
    c.run schema s = (c, []) := by
  cases s with
  | setSearchPath _ => rfl
  | _ => cases h

/-- Qualified statements do under any default what the statements do where they stand. -/
theorem runAll_qualifiedBehind (c : Catalog) (default : Identifier) (before l : List Statement) :
    c.runAll default (qualifiedBehind before l) = c.runAll (schemaInForce before) l := by
  induction l generalizing c default before with
  | nil => rfl
  | cons s l ih =>
    rw [qualifiedBehind]
    cases hs : s.qualified? (schemaInForce before) with
    | none =>
      have hrun := run_of_setsPath (Statement.qualified?_eq_none_iff.1 hs) c (schemaInForce before)
      simp only [Option.toList_none, List.nil_append, runAll, hrun, ih, schemaInForce_concat]
    | some s' =>
      have hrun := run_of_qualified? hs c default
      simp only [Option.toList_some, List.cons_append, List.nil_append, runAll, hrun, ih,
        schemaInForce_concat]

/-- Qualified statements leave the same catalog and the same notices. -/
theorem fold_qualified (statements : List Statement) :
    fold (qualified statements) = fold statements :=
  runAll_qualifiedBehind empty publicSchema [] statements

theorem isQualified_of_mem_qualifiedBehind {before l : List Statement} {s : Statement}
    (h : s ∈ qualifiedBehind before l) : s.isQualified := by
  induction l generalizing before with
  | nil => cases h
  | cons x l ih =>
    rw [qualifiedBehind, List.mem_append, Option.mem_toList] at h
    exact h.elim Statement.isQualified_of_qualified? ih

/-- **Statements with the whole names of their tables and without search paths can stand for the
original**: what they leave, and every patch from it or to it, is the same. -/
theorem build_qualified (statements : List Statement) :
    (∀ s ∈ qualified statements, s.isQualified) ∧
      Interchangeable (qualified statements) statements :=
  ⟨fun _ hs => isQualified_of_mem_qualifiedBehind hs,
    .of_build_eq (congrArg Prod.fst (fold_qualified statements))⟩

/-- The search path in the middle counts for what is behind it only; a path that names no schema
counts for nothing. -/
example (a b c : ObjectName) : qualified
    [.createTable ⟨a, []⟩, .setSearchPath ⟨[.identifier ⟨"app"⟩]⟩, .createTable ⟨b, []⟩,
      .setSearchPath ⟨[.string "''"]⟩, .createTable ⟨c, []⟩] =
    [.createTable ⟨a.withSchema ⟨"public"⟩, []⟩, .createTable ⟨b.withSchema ⟨"app"⟩, []⟩,
      .createTable ⟨c.withSchema ⟨"app"⟩, []⟩] := rfl

end Catalog

end SchemaPatch
