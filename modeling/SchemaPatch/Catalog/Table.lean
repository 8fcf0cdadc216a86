import SchemaPatch.Catalog.Keyed
import SchemaPatch.Sql.Statement

/-!
# Tables

A table as statements leave it, with everything that is attached to it. Types and default values are
kept as their canonical texts, which is what a comparison goes by. Columns, indexes, constraints and
explicit defaults are each found under a name without quotes and keep the order in which the names
first came.
-/

namespace SchemaPatch

/-- A column. -/
structure Column where
  /-- Its name. -/
  name : Identifier
  /-- The text of its type. -/
  type : String
  /-- Whether null values are ruled out. -/
  notNull : Bool
  /-- The text of the default value in its definition. -/
  default : Option String
  /-- The sequence that is attached to it. -/
  sequence : Option Identifier
  deriving DecidableEq, Repr

/-- The column that a definition defines. -/
def Column.ofDefinition (d : ColumnDefinition) : Column :=
  ⟨d.name, d.type.sql, d.isNotNull, d.default?.map Expression.sql, none⟩

/-- An index. -/
structure Index where
  /-- Its name. -/
  name : Identifier
  /-- The statement that creates it, with the schema of its table. -/
  statement : CreateIndex
  deriving DecidableEq, Repr

/-- A constraint that has a name. -/
structure Constraint where
  /-- Its name. -/
  name : Identifier
  /-- Its kind. -/
  kind : ConstraintKind
  /-- Its columns. -/
  columns : List Identifier
  deriving DecidableEq, Repr

/-- A default value that a column got after its definition. -/
structure ColumnDefault where
  /-- The column. -/
  column : Identifier
  /-- The text of the value. -/
  value : String
  deriving DecidableEq, Repr

/-- A table and what is attached to it. -/
structure Table where
  /-- Its name. -/
  name : QualifiedName
  /-- The definitions of its columns, as they were written. -/
  definitions : List ColumnDefinition
  /-- Its columns. -/
  columns : Keyed Column
  /-- Its indexes. -/
  indexes : Keyed Index
  /-- Its constraints. -/
  constraints : Keyed Constraint
  /-- Its explicit defaults. -/
  defaults : Keyed ColumnDefault
  deriving DecidableEq, Repr

namespace Table

/-- The columns that definitions define. Of two definitions of one name the later counts. -/
def columnsOf (definitions : List ColumnDefinition) : Keyed Column :=
  definitions.foldl (fun m d => m.put d.name.value (.ofDefinition d)) .empty

/-- The table that a statement creates where `schema` is the default. -/
def ofStatement (schema : Identifier) (s : CreateTable) : Table :=
  ⟨s.table.resolve schema, s.columns, columnsOf s.columns, .empty, .empty, .empty⟩

/-- The text by which a table is known. -/
def id (t : Table) : String := t.name.sql

/-- The statement that creates the table, with its schema. -/
def statement (t : Table) : CreateTable := ⟨t.name.toObjectName, t.definitions⟩

/-- The column of a name. -/
def column? (t : Table) (name : String) : Option Column := t.columns.get? name

/-- A table with one more index. -/
def addIndex (name : Identifier) (statement : CreateIndex) (t : Table) : Table :=
  { t with indexes := t.indexes.put name.value ⟨name, statement⟩ }

/-- A table with one more constraint. -/
def addConstraint (c : Constraint) (t : Table) : Table :=
  { t with constraints := t.constraints.put c.name.value c }

/-- A table with one more explicit default. -/
def addDefault (d : ColumnDefault) (t : Table) : Table :=
  { t with defaults := t.defaults.put d.column.value d }

/-- A table with a sequence attached to a column. -/
def attach (column : String) (sequence : Identifier) (t : Table) : Table :=
  { t with columns := t.columns.modify column fun c => { c with sequence := some sequence } }

end Table

end SchemaPatch
