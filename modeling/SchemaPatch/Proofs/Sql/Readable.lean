import SchemaPatch.Proofs.Grammar.Nesting
import SchemaPatch.Sql.Statement

/-!
# Readable statements

Not every statement can be read back from its text: its expressions have to nest as their operators
bind, its literals have to be tokens, a list that cannot be empty has to have something in it, and
an integer is read before its sign. `Statement.Readable` collects these conditions. They hold of all
that the grammar gives.

`Statement.withoutNulls` leaves out what a text does not say: that a column may have null values.
-/

namespace SchemaPatch

variable (S : Symbol → Prop)

/-- An expression that can be read back, with literals that have the property `S`. -/
structure Expression.Readable (e : Expression) : Prop where
  nested : e.Nested
  spelled : e.Spelled S

/-- A condition of a column whose expression can be read back. -/
def ColumnConstraint.Readable : ColumnConstraint → Prop
  | default value => value.Readable S
  | _ => True

/-- A column whose type and conditions can be read back. -/
structure ColumnDefinition.Readable (c : ColumnDefinition) : Prop where
  type : c.type.IsReadable
  constraints : ∀ k ∈ c.constraints, k.Readable S

/-- Columns that can be read back. -/
def CreateTable.Readable (s : CreateTable) : Prop := ∀ c ∈ s.columns, c.Readable S

/-- What an index can sort by: a column, a function call, or an expression between parentheses. -/
inductive IndexTarget.IsKey : Expression → Prop where
  /-- A column. -/
  | column (name : Identifier) : IsKey (.identifier name)
  /-- A function call. -/
  | call (name : Identifier) (args : List Expression) : IsKey (.call (.identifier name) args)
  /-- An expression between parentheses. -/
  | group (inner : Expression) : IsKey (.group inner)

/-- An index target that can be read back. -/
structure IndexTarget.Readable (t : IndexTarget) : Prop where
  key : IsKey t.key
  readable : t.key.Readable S

/-- An index with something to sort by. -/
structure CreateIndex.Readable (s : CreateIndex) : Prop where
  ne_nil : s.targets ≠ []
  targets : ∀ t ∈ s.targets, t.Readable S

/-- An integer that can be read back: the least one cannot, as its sign is read apart. -/
def IsReadableInteger (n : Int64) : Prop := n ≠ Int64.minValue

/-- A sequence whose options can be read back. -/
structure CreateSequence.Readable (s : CreateSequence) : Prop where
  type : ∀ t ∈ s.type, t.IsReadable
  start : ∀ n ∈ s.start, IsReadableInteger n
  increment : ∀ n ∈ s.increment, IsReadableInteger n
  cache : ∀ n ∈ s.cache, IsReadableInteger n

/-- An action that can be read back. -/
def AlterAction.Readable : AlterAction → Prop
  | addConstraint c => c.columns ≠ []
  | setDefault _ value => value.Readable S

/-- A change of a table with something to change. -/
structure AlterTable.Readable (s : AlterTable) : Prop where
  ne_nil : s.actions ≠ []
  actions : ∀ a ∈ s.actions, a.Readable S

/-- A search path with something to search. -/
structure SetSearchPath.Readable (s : SetSearchPath) : Prop where
  ne_nil : s.values ≠ []
  values : ∀ e ∈ s.values, e.Readable S

/-- A statement that can be read back, with literals that have the property `S`. -/
def Statement.Readable : Statement → Prop
  | createSchema _ | ownSequence _ => True
  | createTable s => s.Readable S
  | createIndex s => s.Readable S
  | createSequence s => s.Readable
  | alterTable s => s.Readable S
  | setSearchPath s => s.Readable S

/-- A column without the conditions that have no text. -/
def ColumnDefinition.withoutNulls (c : ColumnDefinition) : ColumnDefinition :=
  { c with constraints := c.constraints.filter (· ≠ .null) }

/-- A statement without the conditions that have no text. -/
def Statement.withoutNulls : Statement → Statement
  | createTable s => createTable { s with columns := s.columns.map .withoutNulls }
  | s => s

end SchemaPatch
