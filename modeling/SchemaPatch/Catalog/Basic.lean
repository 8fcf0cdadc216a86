import SchemaPatch.Catalog.Table

/-!
# Catalogs

A catalog holds the tables that statements leave, in the order of the texts by which they are known.
Statements are taken in order. A name without a schema belongs to the schema that the search path
last named, or to `public`. What refers to an unknown table or column has no effect but a notice.
-/

namespace SchemaPatch

/-- Something that a statement says and a catalog does not take up as said. -/
inductive Notice where
  /-- A schema is created, which leaves no trace. -/
  | schemaCreated (schema : Identifier)
  /-- A sequence is created, which leaves no trace until it is attached to a column. -/
  | sequenceCreated (sequence : ObjectName)
  /-- A table takes the place of another one. -/
  | tableRedefined (table : QualifiedName)
  /-- An index has no name. -/
  | indexUnnamed (table : QualifiedName)
  /-- The table of an index is unknown. -/
  | indexOfUnknown (index : Identifier) (table : QualifiedName)
  /-- The table whose column a sequence is attached to is unknown. -/
  | sequenceOfUnknown (sequence : Identifier) (table : QualifiedName)
  /-- The column that a sequence is attached to is unknown. -/
  | sequenceOfUnknownColumn (sequence : Identifier) (table : QualifiedName) (column : Identifier)
  /-- A table that is altered is unknown. -/
  | tableUnknown (table : QualifiedName)
  /-- A constraint has no name. -/
  | constraintUnnamed (table : QualifiedName)
  deriving DecidableEq, Repr

/-- The tables that statements leave. -/
structure Catalog where
  /-- The tables, each under the text by which it is known, in the order of these. -/
  entries : Keyed Table
  deriving DecidableEq, Repr

namespace Catalog

/-- No tables. -/
def empty : Catalog := ⟨.empty⟩

/-- The tables, in order. -/
def tables (c : Catalog) : List Table := c.entries.values

/-- How many tables there are. -/
def size (c : Catalog) : Nat := c.entries.size

/-- The table that is known by a text. -/
def table? (c : Catalog) (id : String) : Option Table := c.entries.get? id

/-- A catalog with a table, which takes the place of the one known by the same text. -/
def insert (c : Catalog) (t : Table) : Catalog := ⟨c.entries.putSorted t.id t⟩

/-- A catalog with a table changed. -/
def modify (c : Catalog) (id : String) (f : Table → Table) : Catalog := ⟨c.entries.modify id f⟩

/-! ### What statements do to a catalog -/

/-- A table is created. -/
def createTable (c : Catalog) (t : Table) : Catalog × List Notice :=
  (c.insert t, if (c.table? t.id).isSome then [.tableRedefined t.name] else [])

/-- An index is created of a table. -/
def createIndex (c : Catalog) (table : QualifiedName) (s : CreateIndex) : Catalog × List Notice :=
  match s.name with
  | none => (c, [.indexUnnamed table])
  | some name =>
    match c.table? table.sql with
    | none => (c, [.indexOfUnknown name table])
    | some _ =>
      (c.modify table.sql (Table.addIndex name { s with table := table.toObjectName }), [])

/-- A sequence is attached to a column of a table. -/
def attachSequence (c : Catalog) (table : QualifiedName) (column sequence : Identifier) :
    Catalog × List Notice :=
  match c.table? table.sql with
  | none => (c, [.sequenceOfUnknown sequence table])
  | some t =>
    match t.column? column.value with
    | none => (c, [.sequenceOfUnknownColumn sequence table column])
    | some _ => (c.modify table.sql (Table.attach column.value sequence), [])

/-- A table is altered by one action. -/
def alterTable (c : Catalog) (table : QualifiedName) : AlterAction → Catalog × List Notice
  | .addConstraint ⟨none, _, _⟩ => (c, [.constraintUnnamed table])
  | .addConstraint ⟨some name, kind, columns⟩ =>
    (c.modify table.sql (Table.addConstraint ⟨name, kind, columns⟩), [])
  | .setDefault column value =>
    (c.modify table.sql (Table.addDefault ⟨column, value.sql⟩), [])

/-- A table is altered by actions, one after the other. -/
def alterTableAll (c : Catalog) (table : QualifiedName) : List AlterAction → Catalog × List Notice
  | [] => (c, [])
  | a :: rest =>
    let first := c.alterTable table a
    let more := first.1.alterTableAll table rest
    (more.1, first.2 ++ more.2)

/-- What a statement does to a catalog where `schema` is the default. -/
def run (c : Catalog) (schema : Identifier) : Statement → Catalog × List Notice
  | .createSchema name => (c, [.schemaCreated name])
  | .createTable s => c.createTable (.ofStatement schema s)
  | .createIndex s => c.createIndex (s.table.resolve schema) s
  | .createSequence s => (c, [.sequenceCreated s.name])
  | .ownSequence s => c.attachSequence (s.table.resolve schema) s.column s.sequence.name
  | .alterTable s =>
    let table := s.table.resolve schema
    match c.table? table.sql with
    | none => (c, [.tableUnknown table])
    | some _ => c.alterTableAll table s.actions
  | .setSearchPath _ => (c, [])

/-- The default schema behind a statement where it was `schema` before. -/
def schemaBehind (schema : Identifier) : Statement → Identifier
  | .setSearchPath s => s.firstSchema?.getD schema
  | _ => schema

/-- What statements do to a catalog, one after the other. -/
def runAll (c : Catalog) (schema : Identifier) : List Statement → Catalog × List Notice
  | [] => (c, [])
  | s :: rest =>
    let first := c.run schema s
    let more := first.1.runAll (schemaBehind schema s) rest
    (more.1, first.2 ++ more.2)

/-- The schema of names without one, as long as no search path is set. -/
def publicSchema : Identifier := ⟨"public"⟩

/-- What statements do from the start. -/
def fold (statements : List Statement) : Catalog × List Notice :=
  empty.runAll publicSchema statements

/-- The catalog that statements leave. -/
def build (statements : List Statement) : Catalog := (fold statements).1

/-- The notices that building a catalog gives. -/
def notices (statements : List Statement) : List Notice := (fold statements).2

end Catalog

end SchemaPatch
