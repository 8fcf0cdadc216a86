import SchemaPatch.Document.Basic

/-!
# Refusals

Two documents are compared only if every statement of both is read or passed over. Otherwise the
comparison is refused with the errors of both, which can be reported in a line or in full.
-/

namespace SchemaPatch

/-- The errors of one document. -/
structure Findings where
  /-- The name of the document. -/
  name : String
  /-- Its errors, in order. -/
  errors : List SyntaxError
  deriving DecidableEq, Repr

namespace Findings

/-- The number of errors in words, where `name` stands for the document. -/
def count (name : String) (errors : List SyntaxError) : String :=
  name ++ " has " ++ Decimal.ofNat errors.length ++ " errors"

/-- A line that counts the errors of a document, if it has any, and under it a line for each. -/
def lines (f : Findings) : List String :=
  if f.errors.isEmpty then []
  else count f.name f.errors :: f.errors.map fun e => "    " ++ e.report

/-- The count of the errors of a document, if it has any, where `side` says which document it is. -/
def summary? (side : String) (f : Findings) : Option String :=
  if f.errors.isEmpty then none else some (count side f.errors)

end Findings

/-- The errors of two documents for which a comparison is refused. -/
structure Refusal where
  /-- The errors of the document that is to be changed. -/
  source : Findings
  /-- The errors of the document that it is to become like. -/
  desired : Findings
  deriving DecidableEq, Repr

namespace Refusal

/-- How many errors there are in all. -/
def count (r : Refusal) : Nat := r.source.errors.length + r.desired.errors.length

/-- The refusal in one line. -/
def summary (r : Refusal) : String :=
  match (r.source.summary? "source").toList ++ (r.desired.summary? "desired").toList with
  | [] => "no parse errors"
  | parts => "; ".intercalate parts

/-- The refusal with every error on a line of its own. -/
def detail (r : Refusal) : String :=
  "\n".intercalate (r.source.lines ++ r.desired.lines)

end Refusal

/-- The errors of a document. -/
def Document.findings (d : Document) : Findings := ⟨d.name, d.errors⟩

end SchemaPatch
