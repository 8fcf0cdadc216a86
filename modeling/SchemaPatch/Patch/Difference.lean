import SchemaPatch.Patch.Change

/-!
# Differences between tables

What has to change for a table to become another one. Columns are compared by type, nullability and
default value, as texts; indexes, constraints and explicit defaults by their names alone. The
changes come in a fixed order: columns, indexes, constraints, explicit defaults, and in each of these
what goes before what comes.
-/

namespace SchemaPatch

namespace Column

/-- Whether the text of a type is `base`, with modifiers or without. -/
def isTypeText (base type : String) : Bool :=
  match base.toList.isPrefixOf? type.toList with
  | some [] => true
  | some (c :: _) => c == '('
  | none => false

/-- The types of text, which the database converts to others only if told how. -/
def castSources : List String := ["character varying", "character", "text"]

/-- The types to which the database does not convert a text by itself. -/
def castTargets : List String := ["bytea", "jsonb", "uuid"]

/-- Whether values of one type become values of the other only by an explicit cast. -/
def needsCast (source desired : String) : Bool :=
  castSources.any (isTypeText · source) && castTargets.contains desired

/-- What has to change for a column to become another one of its name. -/
def changes (source desired : Column) : List Change :=
  (if source.type = desired.type then []
    else [.setType desired.name desired.type (needsCast source.type desired.type)]) ++
  (if source.notNull = desired.notNull then [] else [.setNotNull desired.name desired.notNull]) ++
  (if source.default = desired.default then []
    else [.setInlineDefault desired.name desired.default])

theorem mem_changes {source desired : Column} {x : Change} (hx : x ∈ source.changes desired) :
    x = .setType desired.name desired.type (needsCast source.type desired.type) ∨
      x = .setNotNull desired.name desired.notNull ∨
      x = .setInlineDefault desired.name desired.default := by
  have hone : ∀ {p : Prop} [Decidable p] {y : Change}, x ∈ (if p then [] else [y]) → x = y := by
    intro p _ y h
    split at h
    · cases h
    · exact List.mem_singleton.1 h
  simp only [changes, List.mem_append] at hx
  exact or_assoc.1 (hx.imp (Or.imp hone hone) hone)

end Column

namespace Table

/-- The changes to the columns. -/
def columnChanges (source desired : Table) : List Change :=
  (source.columns.missingFrom desired.columns).map (fun c => .dropColumn c.name) ++
  (source.columns.pairedWith desired.columns).flatMap (fun p => p.1.changes p.2) ++
  (desired.columns.missingFrom source.columns).map .addColumn

/-- The changes to the indexes. -/
def indexChanges (source desired : Table) : List Change :=
  (source.indexes.missingFrom desired.indexes).map (fun i => .dropIndex i.name) ++
  (desired.indexes.missingFrom source.indexes).map .createIndex

/-- The changes to the constraints. -/
def constraintChanges (source desired : Table) : List Change :=
  (source.constraints.missingFrom desired.constraints).map (fun c => .dropConstraint c.name) ++
  (desired.constraints.missingFrom source.constraints).map .addConstraint

/-- The changes to the explicit defaults. -/
def defaultChanges (source desired : Table) : List Change :=
  (source.defaults.missingFrom desired.defaults).map (fun d => .dropDefault d.column) ++
  (desired.defaults.missingFrom source.defaults).map .setDefault

/-- What has to change for a table to become another one of its name. -/
def changes (source desired : Table) : List Change :=
  columnChanges source desired ++ indexChanges source desired ++
    constraintChanges source desired ++ defaultChanges source desired

/-- The creation of the sequence of a column, if one is attached to it. -/
def sequenceChanges (c : Column) : List Change :=
  match c.sequence with
  | some sequence => [.createSequence sequence, .attachSequence sequence c.name]
  | none => []

/-- What has to be done for a table to be there that was not. -/
def creation (t : Table) : List Change :=
  .createTable t.definitions :: t.columns.values.flatMap sequenceChanges ++
    t.indexes.values.map .createIndex ++ t.constraints.values.map .addConstraint ++
    t.defaults.values.map .setDefault

end Table

end SchemaPatch
