import Mathlib.Logic.Function.Basic
import SchemaPatch.Patch.Basic
import SchemaPatch.Proofs.Catalog.View

/-!
# What the statements of a patch do

Each statement of a patch is a change to one table. Its effect is given on what a comparison sees:
a table is dropped or created, a column or a name is put in, changed or taken out. A change to what
is not there, and a statement about a sequence, have no effect.
-/

namespace SchemaPatch

namespace TableView

/-- A table with columns defined like this and nothing attached to it. -/
def ofDefinitions (definitions : List ColumnDefinition) : TableView :=
  ⟨Column.views (Table.columnsOf definitions), fun _ => false, fun _ => false, fun _ => false⟩

/-- A table with one of its columns edited, which may not be there before or after. -/
def editColumn (name : Identifier) (f : Option ColumnView → Option ColumnView) (t : TableView) :
    TableView :=
  { t with columns := Function.update t.columns name.value (f (t.columns name.value)) }

/-- A table with the name of an index put in or taken out. -/
def setIndex (name : Identifier) (present : Bool) (t : TableView) : TableView :=
  { t with indexes := Function.update t.indexes name.value present }

/-- A table with the name of a constraint put in or taken out. -/
def setConstraint (name : Identifier) (present : Bool) (t : TableView) : TableView :=
  { t with constraints := Function.update t.constraints name.value present }

/-- A table with a column that has an explicit default, or has none any more. -/
def setDefault (column : Identifier) (present : Bool) (t : TableView) : TableView :=
  { t with defaults := Function.update t.defaults column.value present }

end TableView

namespace Change

/-- Whether a change is about a sequence. -/
def isSequence : Change → Bool
  | createSequence _ | attachSequence _ _ => true
  | _ => false

/-- What a change does to what is seen of its table, which may not be there before or after. An index
has the name that the statement which creates it says. -/
def effect : Change → Option TableView → Option TableView
  | dropTable, _ => none
  | createTable definitions, _ => some (.ofDefinitions definitions)
  | createSequence _, t | attachSequence _ _, t => t
  | dropColumn column, t => t.map (.editColumn column fun _ => none)
  | setType column type _, t => t.map (.editColumn column (Option.map ({ · with type := type })))
  | setNotNull column notNull, t =>
    t.map (.editColumn column (Option.map ({ · with notNull := notNull })))
  | setInlineDefault column value, t =>
    t.map (.editColumn column (Option.map ({ · with default := value })))
  | addColumn column, t => t.map (.editColumn column.name fun _ => some column.view)
  | dropIndex index, t => t.map (.setIndex index false)
  | createIndex index, t =>
    match index.statement.name with
    | some name => t.map (.setIndex name true)
    | none => t
  | dropConstraint constraint, t => t.map (.setConstraint constraint false)
  | addConstraint constraint, t => t.map (.setConstraint constraint.name true)
  | dropDefault column, t => t.map (.setDefault column false)
  | setDefault default, t => t.map (.setDefault default.column true)

theorem effect_of_isSequence {c : Change} (h : c.isSequence) (t : Option TableView) :
    c.effect t = t := by
  cases c with
  | createSequence | attachSequence => rfl
  | _ => cases h

end Change

/-- A statement of a patch: a change and the table it is made to. -/
structure Step where
  /-- The table. -/
  table : QualifiedName
  /-- The change. -/
  change : Change
  deriving DecidableEq, Repr

namespace Step

/-- What a statement of a patch does to a view. -/
def run (s : Step) (v : View) : View :=
  Function.update v s.table.sql (s.change.effect (v s.table.sql))

/-- What statements of a patch do to a view, one after the other. -/
def runAll (steps : List Step) (v : View) : View := steps.foldl (fun v s => s.run v) v

/-- A statement about a sequence does nothing to a view. -/
theorem run_of_isSequence {s : Step} (h : s.change.isSequence) (v : View) : s.run v = v := by
  rw [run, Change.effect_of_isSequence h, Function.update_eq_self]

end Step

/-- The statements of a block, in order. -/
def Block.steps (b : Block) : List Step := b.changes.map (Step.mk b.table)

/-- The statements of a patch, in order. -/
def Patch.steps (p : Patch) : List Step := p.blocks.flatMap Block.steps

end SchemaPatch
