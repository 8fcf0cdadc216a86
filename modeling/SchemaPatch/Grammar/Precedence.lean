import SchemaPatch.Sql.Expression
import SchemaPatch.Token.Basic

/-!
# Precedence of operators

How strongly the operators of an expression bind, the weakest first.
-/

namespace SchemaPatch

/-- A strength of binding. -/
inductive Precedence where
  /-- Weaker than every operator. -/
  | lowest
  /-- `IS` and `IS NOT`. -/
  | is
  /-- Addition and subtraction. -/
  | sum
  /-- Multiplication and division. -/
  | product
  /-- Conversion to a type. -/
  | typecast
  /-- A sign. -/
  | sign
  /-- A call. -/
  | call
  deriving DecidableEq, Repr

namespace Precedence

/-- The place of a strength, counted from the weakest. -/
def rank : Precedence → Nat
  | lowest => 0
  | is => 1
  | sum => 2
  | product => 3
  | typecast => 4
  | sign => 5
  | call => 6

instance : LT Precedence := ⟨fun p q => p.rank < q.rank⟩

instance : LE Precedence := ⟨fun p q => p.rank ≤ q.rank⟩

instance (p q : Precedence) : Decidable (p < q) := inferInstanceAs (Decidable (p.rank < q.rank))

instance (p q : Precedence) : Decidable (p ≤ q) := inferInstanceAs (Decidable (p.rank ≤ q.rank))

/-- How strongly a token binds behind an operand; `none` if it is no operator there. -/
def ofKind? : Token.Kind → Option Precedence
  | .keyword .IS => some is
  | .plus | .minus => some sum
  | .asterisk | .slash => some product
  | .typecast => some typecast
  | .leftParen => some call
  | _ => none

end Precedence

/-- The arithmetic operator that a token is between operands. -/
def BinaryOp.ofKind? : Token.Kind → Option BinaryOp
  | .plus => some add
  | .minus => some sub
  | .asterisk => some mul
  | .slash => some div
  | _ => none

/-- The sign that a token is before an operand. -/
def UnaryOp.ofKind? : Token.Kind → Option UnaryOp
  | .minus => some neg
  | .plus => some plus
  | _ => none

end SchemaPatch
