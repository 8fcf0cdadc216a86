import SchemaPatch.Catalog.Basic
import SchemaPatch.Patch.Difference

/-!
# Patches

A patch turns one catalog into another. It has a block for each table that changes: first the tables
that were there, changed or dropped, then those that come, each in the order of the catalogs.
-/

namespace SchemaPatch

/-- The changes to one table. -/
structure Block where
  /-- The table. -/
  table : QualifiedName
  /-- Its changes, in order. -/
  changes : List Change
  deriving DecidableEq, Repr

namespace Block

/-- The texts of changes to a table, each with a line feed behind it. -/
def changesSql (table : QualifiedName) : List Change → String
  | [] => ""
  | c :: rest => c.sql table ++ "\n" ++ changesSql table rest

/-- The line comment that says which table is changed, with its line feed. -/
def header (table : QualifiedName) : String := "-- Table: " ++ table.sql ++ "\n"

/-- The text of a block, with a blank line behind it. -/
def sql (b : Block) : String := header b.table ++ changesSql b.table b.changes ++ "\n"

/-- The block of a table that is there in `source`, if the table changes. -/
def ofPresent? (source : Table) (desired : Option Table) : Option Block :=
  match desired with
  | none => some ⟨source.name, [.dropTable]⟩
  | some t =>
    match source.changes t with
    | [] => none
    | changes => some ⟨t.name, changes⟩

/-- The block of a table that was not there. -/
def ofNew (t : Table) : Block := ⟨t.name, t.creation⟩

end Block

/-- A patch. -/
structure Patch where
  /-- Its blocks, in order. -/
  blocks : List Block
  deriving DecidableEq, Repr

namespace Patch

/-- The text of blocks, one after the other. -/
def blocksSql : List Block → String
  | [] => ""
  | b :: rest => b.sql ++ blocksSql rest

/-- The text of a patch. -/
def sql (p : Patch) : String := blocksSql p.blocks

/-- Whether a patch changes nothing. -/
def isEmpty (p : Patch) : Bool := p.blocks.isEmpty

/-- The patch that turns `source` into `desired`. -/
def between (source desired : Catalog) : Patch :=
  ⟨source.entries.entries.filterMap (fun e => Block.ofPresent? e.2 (desired.table? e.1)) ++
    (desired.entries.missingFrom source.entries).map Block.ofNew⟩

end Patch

end SchemaPatch
