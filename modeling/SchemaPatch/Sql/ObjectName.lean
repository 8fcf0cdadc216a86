import SchemaPatch.Sql.Identifier

/-!
# Names of tables and sequences

A statement names a table or a sequence with its schema or without. A name without a schema is
resolved against a default, which gives a qualified name.
-/

namespace SchemaPatch

/-- The name of a table or sequence as a statement writes it. -/
structure ObjectName where
  /-- The schema, if it is written. -/
  schema : Option Identifier
  /-- The name within the schema. -/
  name : Identifier
  deriving DecidableEq, Repr

/-- The text of a name: the schema and a point, if it has one, and the name. -/
def ObjectName.sql (n : ObjectName) : String :=
  match n.schema with
  | some schema => schema.sql ++ "." ++ n.name.sql
  | none => n.name.sql

/-- The name of a table with its schema. -/
structure QualifiedName where
  /-- The schema. -/
  schema : Identifier
  /-- The name within the schema. -/
  name : Identifier
  deriving DecidableEq, Repr

namespace QualifiedName

/-- A qualified name as a statement writes it. -/
def toObjectName (n : QualifiedName) : ObjectName := ⟨some n.schema, n.name⟩

/-- The text of a qualified name. -/
def sql (n : QualifiedName) : String := n.toObjectName.sql

end QualifiedName

/-- The qualified name that a name stands for where `default` is the schema of names without one. -/
def ObjectName.resolve (default : Identifier) (n : ObjectName) : QualifiedName :=
  ⟨n.schema.getD default, n.name⟩

/-- A name with `default` for its schema if it has none. -/
def ObjectName.withSchema (default : Identifier) (n : ObjectName) : ObjectName :=
  (n.resolve default).toObjectName

end SchemaPatch
