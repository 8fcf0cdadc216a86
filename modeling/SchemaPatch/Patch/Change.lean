import SchemaPatch.Catalog.Table

/-!
# Changes to a table

The statements of a patch, each a change to one table. A change does not repeat which table it
changes; its text does.
-/

namespace SchemaPatch

/-- A change to a table. -/
inductive Change where
  /-- The table is dropped. -/
  | dropTable
  /-- The table is created, with columns defined like this. -/
  | createTable (definitions : List ColumnDefinition)
  /-- A sequence is created in the schema of the table. -/
  | createSequence (sequence : Identifier)
  /-- A sequence in the schema of the table is attached to a column. -/
  | attachSequence (sequence column : Identifier)
  /-- A column is dropped. -/
  | dropColumn (column : Identifier)
  /-- A column gets another type, to which its values are converted by a cast if `cast` says so. -/
  | setType (column : Identifier) (type : String) (cast : Bool)
  /-- Null values are ruled out in a column, or ruled in. -/
  | setNotNull (column : Identifier) (notNull : Bool)
  /-- A column gets another default value in its definition, or none. -/
  | setInlineDefault (column : Identifier) (value : Option String)
  /-- A column is added. -/
  | addColumn (column : Column)
  /-- An index is dropped. -/
  | dropIndex (index : Identifier)
  /-- An index is created. -/
  | createIndex (index : Index)
  /-- A constraint is dropped. -/
  | dropConstraint (constraint : Identifier)
  /-- A constraint is added. -/
  | addConstraint (constraint : Constraint)
  /-- The explicit default of a column is dropped. -/
  | dropDefault (column : Identifier)
  /-- A column gets an explicit default. -/
  | setDefault (default : ColumnDefault)
  deriving DecidableEq, Repr

namespace Change

/-- The text of a change to any columns of a table. -/
def alterTable (table : QualifiedName) (action : String) : String :=
  "ALTER TABLE " ++ table.sql ++ " " ++ action ++ ";"

/-- The text of a change to a table that leaves alone those which inherit from it. -/
def alterOnly (table : QualifiedName) (action : String) : String :=
  "ALTER TABLE ONLY " ++ table.sql ++ " " ++ action ++ ";"

/-- The text that adds a column; the default value comes before the condition on nulls. -/
def addedColumnSql (c : Column) : String :=
  "ADD COLUMN " ++ c.name.sql ++ " " ++ c.type ++
    (match c.default with
      | some value => " DEFAULT " ++ value
      | none => "") ++
    (if c.notNull then " NOT NULL" else "")

/-- The text that gives a column a default value, or takes it away. -/
def defaultSql (column : Identifier) : Option String → String
  | some value => "ALTER COLUMN " ++ column.sql ++ " SET DEFAULT " ++ value
  | none => "ALTER COLUMN " ++ column.sql ++ " DROP DEFAULT"

/-- The text of a change to a table. -/
def sql (table : QualifiedName) : Change → String
  | dropTable => "DROP TABLE " ++ table.sql ++ ";"
  | createTable definitions => (CreateTable.mk table.toObjectName definitions).sql
  | createSequence sequence =>
    "CREATE SEQUENCE " ++ (QualifiedName.mk table.schema sequence).sql ++
      " START WITH 1 INCREMENT BY 1 NO MINVALUE NO MAXVALUE CACHE 1;"
  | attachSequence sequence column =>
    "ALTER SEQUENCE " ++ (QualifiedName.mk table.schema sequence).sql ++ " OWNED BY " ++
      table.name.sql ++ "." ++ column.sql ++ ";"
  | dropColumn column => alterTable table ("DROP COLUMN " ++ column.sql)
  | setType column type cast =>
    alterTable table ("ALTER COLUMN " ++ column.sql ++ " TYPE " ++ type ++
      (if cast then " USING " ++ column.sql ++ "::" ++ type else ""))
  | setNotNull column notNull =>
    alterTable table ("ALTER COLUMN " ++ column.sql ++ (if notNull then " SET" else " DROP") ++
      " NOT NULL")
  | setInlineDefault column value => alterTable table (defaultSql column value)
  | addColumn column => alterTable table (addedColumnSql column)
  | dropIndex index => "DROP INDEX " ++ index.sql ++ ";"
  | createIndex index => index.statement.sql
  | dropConstraint constraint => alterOnly table ("DROP CONSTRAINT " ++ constraint.sql)
  | addConstraint constraint =>
    alterOnly table ("ADD CONSTRAINT " ++ constraint.name.sql ++ " " ++ constraint.kind.sql ++
      " (" ++ listed (constraint.columns.map Identifier.sql) ++ ")")
  | dropDefault column => alterOnly table (defaultSql column none)
  | setDefault default => alterOnly table (defaultSql default.column (some default.value))

end Change

end SchemaPatch
