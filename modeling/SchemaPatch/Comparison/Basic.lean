import SchemaPatch.Comparison.Refusal
import SchemaPatch.Patch.Basic

/-!
# Comparisons

Two documents are compared by the catalogs that their statements leave. The outcome is the patch that
turns the one into the other, or a refusal if one of them has errors.
-/

namespace SchemaPatch

/-- The catalog that the statements of a document leave. -/
def Document.catalog (d : Document) : Catalog := Catalog.build d.statements

/-- Two documents to compare. -/
structure Comparison where
  /-- The document that is to be changed. -/
  source : Document
  /-- The document that it is to become like. -/
  desired : Document
  deriving DecidableEq, Repr

namespace Comparison

/-- Whether both documents are free of errors. -/
def isClean (c : Comparison) : Bool := c.source.isClean && c.desired.isClean

/-- The patch by the statements that were read, whatever the errors. -/
def lenientPatch (c : Comparison) : Patch := .between c.source.catalog c.desired.catalog

/-- The refusal for the errors of the documents. -/
def refusal (c : Comparison) : Refusal := ⟨c.source.findings, c.desired.findings⟩

/-- The patch, or a refusal if there is an error. -/
def patch (c : Comparison) : Except Refusal Patch :=
  if c.isClean then .ok c.lenientPatch else .error c.refusal

end Comparison

end SchemaPatch
