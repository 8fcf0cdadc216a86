import SchemaPatch.Log.Comparison
import SchemaPatch.Proofs.Catalog.Attachments
import SchemaPatch.Proofs.Catalog.Definitions

/-!
# What a catalog warns about

An `Occasion` is a statement where it stands, behind others. Each sort of statement that refers to what
is not there, or that has no name for what it brings, is warned about once where it stands, and each
table that is defined again too. So the warnings of a run are counted by the occasions for them
(`Catalog.countP_warn_notices`), and what is warned about for another reason than that a table is
defined again leaves the catalog as it was (`Occasion.after_of_strays`, `Catalog.run_of_isUnnamed`).
-/

namespace SchemaPatch

/-- Whether an action adds a constraint that has no name. -/
def AlterAction.isUnnamed : AlterAction → Bool
  | .addConstraint c => c.name.isNone
  | .setDefault _ _ => false

/-- A statement where it stands. -/
structure Occasion where
  /-- The statements before it. -/
  before : List Statement
  /-- The statement. -/
  statement : Statement

namespace Occasion

/-- The schema of names without one. -/
def schema (o : Occasion) : Identifier := Catalog.schemaInForce o.before

/-- The text by which the table of a name is known. -/
def id (o : Occasion) (n : ObjectName) : String := (n.resolve o.schema).sql

/-- Whether the table of a name has been defined. -/
def defines (o : Occasion) (n : ObjectName) : Bool := decide (Catalog.Defines o.before (o.id n))

/-- Whether a column of the table of a name has been defined, where the table counts as it was defined
last. -/
def definesColumn (o : Occasion) (n : ObjectName) (column : Identifier) : Bool :=
  (Catalog.definition? o.before (o.id n) column.value).isSome

/-- The catalog behind the statement. -/
def after (o : Occasion) : Catalog := Catalog.build (o.before ++ [o.statement])

/-- What the statement gives notice of. -/
def notices (o : Occasion) : List Notice := ((Catalog.build o.before).run o.schema o.statement).2

/-! ### What is warned about -/

/-- A table is created that has been defined. -/
def redefines (o : Occasion) : Bool :=
  match o.statement with
  | .createTable s => o.defines s.table
  | _ => false

/-- An index is created without a name, or of a table that has not been defined. -/
def straysIndex (o : Occasion) : Bool :=
  match o.statement with
  | .createIndex s => s.name.isNone || !o.defines s.table
  | _ => false

/-- A sequence is attached to a column that has not been defined, or of a table that has not. -/
def straysLink (o : Occasion) : Bool :=
  match o.statement with
  | .ownSequence s => !o.defines s.table || !o.definesColumn s.table s.column
  | _ => false

/-- A table is altered that has not been defined. -/
def straysAlter (o : Occasion) : Bool :=
  match o.statement with
  | .alterTable s => !o.defines s.table
  | _ => false

/-- The constraints without a name that are added to a table that has been defined. -/
def unnamedConstraints (o : Occasion) : List AlterAction :=
  match o.statement with
  | .alterTable s => if o.defines s.table then s.actions.filter AlterAction.isUnnamed else []
  | _ => []

/-- A statement has nothing to work on. -/
def strays (o : Occasion) : Bool := o.straysIndex || o.straysLink || o.straysAlter

variable {o : Occasion}

theorem defines_eq (o : Occasion) (n : ObjectName) :
    o.defines n = ((Catalog.build o.before).table? (o.id n)).isSome := by
  rw [Bool.eq_iff_iff, Catalog.isSome_table?_build_iff]
  exact decide_eq_true_iff

theorem definesColumn_eq (o : Occasion) (n : ObjectName) (column : Identifier) : o.definesColumn n column =
    ((Catalog.build o.before).table? (o.id n)).any fun t => t.columns.contains column.value := by
  rw [Bool.eq_iff_iff, definesColumn, Catalog.isSome_definition?_iff, Option.any_eq_true]

theorem after_eq (o : Occasion) :
    o.after = ((Catalog.build o.before).run o.schema o.statement).1 :=
  Catalog.build_concat o.before o.statement

end Occasion

/-- Whether something is told as a warning. -/
def Notice.isWarning (n : Notice) : Bool := decide (n.event.level = .warn)

namespace Catalog

/-! ### Every statement where it stands -/

/-- The statements of a list where they stand, if `before` comes before them. -/
def occasionsBehind (before : List Statement) : List Statement → List Occasion
  | [] => []
  | s :: rest => ⟨before, s⟩ :: occasionsBehind (before ++ [s]) rest

/-- The statements of a list where they stand. -/
def occasions (statements : List Statement) : List Occasion := occasionsBehind [] statements

theorem occasionsBehind_append (before l m : List Statement) :
    occasionsBehind before (l ++ m) = occasionsBehind before l ++ occasionsBehind (before ++ l) m := by
  induction l generalizing before with
  | nil => simp [occasionsBehind]
  | cons s l ih => simp [occasionsBehind, ih]

theorem occasions_concat (l : List Statement) (s : Statement) :
    occasions (l ++ [s]) = occasions l ++ [⟨l, s⟩] :=
  occasionsBehind_append [] l [s]

/-! ### Warnings -/

theorem runAll_append_snd (c : Catalog) (before l m : List Statement) :
    (c.runAll (schemaInForce before) (l ++ m)).2 = (c.runAll (schemaInForce before) l).2 ++
      ((c.runAll (schemaInForce before) l).1.runAll (schemaInForce (before ++ l)) m).2 := by
  induction l generalizing c before with
  | nil => simp [runAll]
  | cons s l ih =>
    rw [List.cons_append, runAll, runAll, ← schemaInForce_concat, ih, List.append_assoc,
      List.append_assoc]
    rfl

theorem notices_concat (l : List Statement) (s : Statement) :
    notices (l ++ [s]) = notices l ++ ((build l).run (schemaInForce l) s).2 := by
  have hsplit := runAll_append_snd empty [] l [s]
  have hone : ∀ c : Catalog, (c.runAll (schemaInForce l) [s]).2 = (c.run (schemaInForce l) s).2 :=
    fun c => List.append_nil _
  rw [List.nil_append, hone] at hsplit
  exact hsplit

/-- Creating a table is warned about if it is there. -/
theorem countP_createTable (c : Catalog) (t : Table) :
    (c.createTable t).2.countP Notice.isWarning = (c.table? t.id).isSome.toNat := by
  rw [createTable]
  cases c.table? t.id <;> rfl

/-- Creating an index is warned about if it has no name or its table is not there. -/
theorem countP_createIndex (c : Catalog) (table : QualifiedName) (s : CreateIndex) :
    (c.createIndex table s).2.countP Notice.isWarning =
      (s.name.isNone || !(c.table? table.sql).isSome).toNat := by
  rw [createIndex]
  cases s.name with
  | none => rfl
  | some name => cases c.table? table.sql <;> rfl

/-- Attaching a sequence is warned about if the table is not there or does not have the column. -/
theorem countP_attachSequence (c : Catalog) (table : QualifiedName) (column sequence : Identifier) :
    (c.attachSequence table column sequence).2.countP Notice.isWarning =
      (!(c.table? table.sql).isSome ||
        !(c.table? table.sql).any fun t => t.columns.contains column.value).toNat := by
  rw [attachSequence]
  cases c.table? table.sql with
  | none => rfl
  | some t =>
    simp only [Option.isSome_some, Option.any_some, Keyed.contains, Table.column?]
    cases t.columns.get? column.value <;> rfl

/-- Of the actions on a table, those are warned about that add a constraint without a name. -/
theorem countP_alterTableAll (c : Catalog) (table : QualifiedName) (actions : List AlterAction) :
    (c.alterTableAll table actions).2.countP Notice.isWarning = actions.countP AlterAction.isUnnamed := by
  induction actions generalizing c with
  | nil => rfl
  | cons a actions ih =>
    rw [alterTableAll, List.countP_append, ih, List.countP_cons, Nat.add_comm]
    cases a with
    | addConstraint constraint =>
      obtain ⟨_ | name, kind, columns⟩ := constraint <;> rfl
    | setDefault column value => rfl

/-- A statement is warned about as often as there is occasion for it. -/
theorem countP_notices_occasion (o : Occasion) : o.notices.countP Notice.isWarning =
    o.redefines.toNat + o.straysIndex.toNat + o.straysLink.toNat + o.straysAlter.toNat +
      o.unnamedConstraints.length := by
  obtain ⟨before, s⟩ := o
  simp only [Occasion.notices, Occasion.redefines, Occasion.straysIndex, Occasion.straysLink,
    Occasion.straysAlter, Occasion.unnamedConstraints, Occasion.defines_eq, Occasion.definesColumn_eq,
    Occasion.id]
  cases s with
  | createTable s => exact countP_createTable _ _
  | createIndex s =>
    rw [run, countP_createIndex]
    simp
  | ownSequence s =>
    rw [run, countP_attachSequence]
    simp
  | alterTable s =>
    rw [run]
    dsimp only
    cases htable : (build before).table? (s.table.resolve (schemaInForce before)).sql with
    | none => simp [Occasion.schema, htable, Notice.isWarning, Notice.event]
    | some t =>
      simp [Occasion.schema, htable, countP_alterTableAll, ← List.countP_eq_length_filter]
  | createSchema _ | createSequence _ | setSearchPath _ => rfl

/-- The warnings of a run are counted by the occasions for them. -/
theorem countP_warn_notices (statements : List Statement) :
    (notices statements).countP Notice.isWarning =
      (occasions statements).countP Occasion.redefines +
        (occasions statements).countP Occasion.straysIndex +
        (occasions statements).countP Occasion.straysLink +
        (occasions statements).countP Occasion.straysAlter +
        ((occasions statements).flatMap Occasion.unnamedConstraints).length := by
  induction statements using List.reverseRecOn with
  | nil => rfl
  | append_singleton l s ih =>
    have hone : ∀ p : Occasion → Bool, [Occasion.mk l s].countP p = (p ⟨l, s⟩).toNat := by
      intro p
      cases hp : p ⟨l, s⟩ <;> simp [hp]
    have hrun := countP_notices_occasion ⟨l, s⟩
    simp only [notices_concat, occasions_concat, List.countP_append, hone, List.flatMap_append,
      List.flatMap_singleton, List.length_append, ih]
    rw [show ((build l).run (schemaInForce l) s).2 = Occasion.notices ⟨l, s⟩ from rfl, hrun]
    omega

end Catalog

/-! ### What is left alone -/

namespace Catalog

/-- An index without a name, or of a table that is not there, is not created. -/
theorem createIndex_of_strays {c : Catalog} {table : QualifiedName} {s : CreateIndex}
    (h : s.name.isNone || !(c.table? table.sql).isSome) : (c.createIndex table s).1 = c := by
  rw [createIndex]
  cases hname : s.name with
  | none => rfl
  | some name =>
    cases htable : c.table? table.sql with
    | none => rfl
    | some t => simp [hname, htable] at h

/-- A sequence is not attached to a column that is not there. -/
theorem attachSequence_of_strays {c : Catalog} {table : QualifiedName} {column : Identifier}
    (h : !(c.table? table.sql).isSome ||
      !(c.table? table.sql).any fun t => t.columns.contains column.value) (sequence : Identifier) :
    (c.attachSequence table column sequence).1 = c := by
  rw [attachSequence]
  cases htable : c.table? table.sql with
  | none => rfl
  | some t =>
    have hcolumn : t.column? column.value = none := by
      simpa [htable, Table.column?, Keyed.contains] using h
    simp only [hcolumn]

/-- Actions after others do what they do to the catalog that the others leave. -/
theorem alterTableAll_append (c : Catalog) (table : QualifiedName) (done rest : List AlterAction) :
    (c.alterTableAll table (done ++ rest)).1 =
      ((c.alterTableAll table done).1.alterTableAll table rest).1 := by
  induction done generalizing c with
  | nil => rfl
  | cons a done ih => exact ih (c.alterTable table a).1

/-- An action that is warned about can as well be left out. -/
theorem run_of_isUnnamed (c : Catalog) (schema : Identifier) (s : AlterTable)
    (done rest : List AlterAction) {a : AlterAction} (ha : a.isUnnamed) :
    (c.run schema (.alterTable { s with actions := done ++ a :: rest })).1 =
      (c.run schema (.alterTable { s with actions := done ++ rest })).1 := by
  have hone : ∀ (c : Catalog) (table : QualifiedName), (c.alterTable table a).1 = c := by
    intro c table
    cases a with
    | addConstraint constraint =>
      obtain ⟨_ | name, kind, columns⟩ := constraint
      · rfl
      · cases ha
    | setDefault column value => cases ha
  simp only [run]
  cases c.table? (s.table.resolve schema).sql with
  | none => rfl
  | some t => simp only [alterTableAll_append, alterTableAll, hone]

end Catalog

namespace Occasion

/-- What is warned about for another reason than that a table is defined again or a constraint has no name
has nothing to work on. -/
theorem strays_of_warned {o : Occasion} (hwarned : ∃ n ∈ o.notices, n.event.level = .warn)
    (hredefines : o.redefines = false) (hunnamed : o.unnamedConstraints = []) : o.strays := by
  have hpos : 0 < o.notices.countP Notice.isWarning := by
    rw [List.countP_pos_iff]
    obtain ⟨n, hn, hlevel⟩ := hwarned
    exact ⟨n, hn, decide_eq_true hlevel⟩
  rw [Catalog.countP_notices_occasion, hredefines, hunnamed] at hpos
  by_contra hnot
  simp only [strays, Bool.or_eq_true, not_or, Bool.not_eq_true] at hnot
  simp [hnot] at hpos

/-- **A statement with nothing to work on leaves the catalog as it was.** -/
theorem after_of_strays {o : Occasion} (h : o.strays) : o.after = Catalog.build o.before := by
  rw [after_eq]
  obtain ⟨before, s⟩ := o
  simp only [strays, straysIndex, straysLink, straysAlter, defines_eq, definesColumn_eq, id] at h
  cases s with
  | createIndex s =>
    rw [Bool.or_false, Bool.or_false] at h
    exact Catalog.createIndex_of_strays h
  | ownSequence s =>
    rw [Bool.or_false, Bool.false_or] at h
    exact Catalog.attachSequence_of_strays h _
  | alterTable s =>
    have hnone : (Catalog.build before).table? (s.table.resolve (schema ⟨before, .alterTable s⟩)).sql =
        none := by simpa using h
    simp only [Catalog.run, hnone]
  | createTable _ | createSchema _ | createSequence _ | setSearchPath _ => cases h

end Occasion

end SchemaPatch
