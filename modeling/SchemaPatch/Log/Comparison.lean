import SchemaPatch.Comparison.Basic
import SchemaPatch.Log.Basic

/-!
# The log of a comparison

The events of a comparison, in order: for each document one for every attempt at a statement,
followed by what the attempt passed over, and one that sums the document up; then, if there are no
errors, what building the two catalogs gives notice of, and one that sums these up.
-/

namespace SchemaPatch

/-- The event of something passed over in the document `input`. -/
def Remark.event (input : String) : Remark → Event
  | .metaCommand t =>
    ⟨.debug, "Skipping meta-command",
      [("input", .plain input), ("line", .number t.line), ("command", .plain t.literal)]⟩
  | .statement t words =>
    ⟨.debug, "Skipping unsupported statement",
      [("input", .plain input), ("line", .number t.line), ("statement", .quoted words)]⟩
  | .constraint t =>
    ⟨.debug, "Skipping table constraint",
      [("input", .plain input), ("line", .number t.line), ("kind", .plain t.literal)]⟩
  | .parameter t =>
    ⟨.debug, "Ignoring SET parameter",
      [("input", .plain input), ("line", .number t.line), ("parameter", .plain t.literal)]⟩

namespace Attempt

/-- The event that begins an attempt. -/
def leadEvent (input : String) (a : Attempt) : Event :=
  ⟨.trace, "Parsing statement",
    [("input", .plain input), ("line", .number a.lead.line), ("token", .plain a.lead.literal)]⟩

/-- The events of an attempt. -/
def events (input : String) (a : Attempt) : List Event :=
  a.leadEvent input :: a.remarks.map (Remark.event input)

end Attempt

namespace Document

/-- The event that sums a document up. -/
def summaryEvent (d : Document) : Event :=
  ⟨.debug, "Parsed input",
    [("input", .quoted d.name), ("statements", .number d.statements.length),
      ("errors", .number d.errors.length)]⟩

/-- The events of reading a document. -/
def events (d : Document) : List Event :=
  d.attempts.flatMap (Attempt.events d.name) ++ [d.summaryEvent]

end Document

/-- The event of a notice. -/
def Notice.event : Notice → Event
  | .schemaCreated schema =>
    ⟨.debug, "CREATE SCHEMA has no catalog effect", [("schema", .plain schema.sql)]⟩
  | .sequenceCreated sequence =>
    ⟨.debug, "CREATE SEQUENCE is linked through OWNED BY only",
      [("sequence", .plain sequence.sql)]⟩
  | .tableRedefined table =>
    ⟨.warn, "Table defined twice, keeping the last definition", [("table", .plain table.sql)]⟩
  | .indexUnnamed table =>
    ⟨.warn, "Index has no name, skipping", [("table", .plain table.sql)]⟩
  | .indexOfUnknown index table =>
    ⟨.warn, "Index references unknown table, skipping",
      [("index", .plain index.sql), ("table", .plain table.sql)]⟩
  | .sequenceOfUnknown sequence table =>
    ⟨.warn, "Sequence owned by unknown table, skipping",
      [("sequence", .plain sequence.sql), ("table", .plain table.sql)]⟩
  | .sequenceOfUnknownColumn sequence table column =>
    ⟨.warn, "Sequence owned by unknown column, skipping",
      [("sequence", .plain sequence.sql), ("table", .plain table.sql),
        ("column", .plain column.sql)]⟩
  | .tableUnknown table =>
    ⟨.warn, "ALTER TABLE references unknown table, skipping", [("table", .plain table.sql)]⟩
  | .constraintUnnamed table =>
    ⟨.warn, "Table constraint has no name, skipping", [("table", .plain table.sql)]⟩

namespace Comparison

/-- The event that sums up the two catalogs. -/
def summaryEvent (source desired : Catalog) : Event :=
  ⟨.debug, "Comparing catalogs",
    [("source_tables", .number source.size), ("desired_tables", .number desired.size)]⟩

/-- The events of building and comparing the catalogs. -/
def catalogEvents (c : Comparison) : List Event :=
  (Catalog.notices c.source.statements).map Notice.event ++
    (Catalog.notices c.desired.statements).map Notice.event ++
    [summaryEvent c.source.catalog c.desired.catalog]

/-- The events of a comparison. -/
def events (c : Comparison) : List Event :=
  c.source.events ++ c.desired.events ++ (if c.isClean then c.catalogEvents else [])

end Comparison

end SchemaPatch
