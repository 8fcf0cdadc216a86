import SchemaPatch.Document.Reader

/-!
# Documents

A document is read statement by statement. What is read of it are the statements that bear on a
schema, and an error for each statement that is refused.
-/

namespace SchemaPatch

/-- An error in a document, as it is reported. -/
structure SyntaxError where
  /-- The name of the document. -/
  input : String
  /-- The line it is found on. -/
  line : Nat
  /-- What is wrong. -/
  message : String
  deriving DecidableEq, Repr

/-- An error in one line of text. -/
def SyntaxError.report (e : SyntaxError) : String :=
  e.input ++ ":" ++ Decimal.ofNat e.line ++ ": " ++ e.message

/-- The error that shows at a token of the document `input`. -/
def Fault.Cause.locate (input : String) (found : Token) (cause : Fault.Cause) : SyntaxError :=
  ⟨input, found.line, cause.message found⟩

/-- The error of a statement, if it was refused. -/
def Attempt.error? (input : String) (a : Attempt) : Option SyntaxError :=
  match a.outcome with
  | .failed cause found => some (cause.locate input found)
  | _ => none

/-- A document as it was read. -/
structure Document where
  /-- Its name. -/
  name : String
  /-- Its statements, one attempt at each. -/
  attempts : List Attempt
  deriving DecidableEq, Repr

namespace Document

/-- Reads a document. -/
def ofText (name text : String) : Document :=
  ⟨name, (Reader.ofText text).attempts⟩

/-- The statements that were read. -/
def statements (d : Document) : List Statement := d.attempts.filterMap Attempt.statement?

/-- The errors of those that were refused. -/
def errors (d : Document) : List SyntaxError := d.attempts.filterMap (Attempt.error? d.name)

/-- Whether no statement was refused. -/
def isClean (d : Document) : Bool := d.errors.isEmpty

/-- The canonical text of the statements that were read. -/
def sql (d : Document) : String := Statement.sqlAll d.statements

end Document

end SchemaPatch
