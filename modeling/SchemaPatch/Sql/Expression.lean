import SchemaPatch.Sql.DataType
import SchemaPatch.Sql.Identifier

/-!
# Expressions

The expressions of default values, index targets and search paths. Literals keep the text they were
written with. An expression is written with its own parentheses and no others, and with no space
around operators, except where two signs would come together.
-/

namespace SchemaPatch

/-- An operator between two operands. -/
inductive BinaryOp where
  /-- Addition. -/
  | add
  /-- Subtraction. -/
  | sub
  /-- Multiplication. -/
  | mul
  /-- Division. -/
  | div
  /-- Conversion to a type. -/
  | typecast
  /-- The predicate `IS`. -/
  | is
  /-- The predicate `IS NOT`. -/
  | isNot
  deriving DecidableEq, Repr

/-- The spelling of an operator, with the spaces that belong to it. -/
def BinaryOp.sql : BinaryOp → String
  | add => "+"
  | sub => "-"
  | mul => "*"
  | div => "/"
  | typecast => "::"
  | is => " IS "
  | isNot => " IS NOT "

/-- An operator before its operand. -/
inductive UnaryOp where
  /-- A minus sign. -/
  | neg
  /-- A plus sign. -/
  | plus
  deriving DecidableEq, Repr

/-- The spelling of a sign. -/
def UnaryOp.sql : UnaryOp → String
  | neg => "-"
  | plus => "+"

/-- An expression. -/
inductive Expression where
  /-- The name of a column, a function or a type. -/
  | identifier (name : Identifier)
  /-- A string, in its quotes. -/
  | string (literal : String)
  /-- A number. -/
  | number (literal : String)
  /-- A truth value. -/
  | boolean (value : Bool)
  /-- The null value. -/
  | null
  /-- An expression between parentheses. -/
  | group (inner : Expression)
  /-- An operand behind a sign. -/
  | unary (op : UnaryOp) (operand : Expression)
  /-- Two operands around an operator. -/
  | binary (left : Expression) (op : BinaryOp) (right : Expression)
  /-- A call with its arguments. -/
  | call (callee : Expression) (args : List Expression)
  /-- A built-in type, as the right operand of a cast. -/
  | type (dataType : DataType)
  deriving Repr

namespace Expression

/-- Whether the text of an expression begins with a minus sign that is an operator. -/
def leadsWithMinus : Expression → Bool
  | unary op _ => op == .neg
  | binary left _ _ => left.leadsWithMinus
  | call callee _ => callee.leadsWithMinus
  | _ => false

/-- What separates an operator from its right operand: a space if the operand begins with a minus
sign, lest two of them begin a comment. -/
def separator (operand : Expression) : String :=
  if operand.leadsWithMinus then " " else ""

mutual

/-- The text of an expression. -/
def sql : Expression → String
  | identifier name => name.sql
  | string literal => literal
  | number literal => literal
  | boolean true => "true"
  | boolean false => "false"
  | null => "NULL"
  | group inner => "(" ++ inner.sql ++ ")"
  | unary op operand => op.sql ++ operand.separator ++ operand.sql
  | binary left op right => left.sql ++ op.sql ++ right.separator ++ right.sql
  | call callee args => callee.sql ++ "(" ++ sqlList args ++ ")"
  | type dataType => dataType.sql

/-- The texts of arguments, with a comma and a space between them. -/
def sqlList : List Expression → String
  | [] => ""
  | [e] => e.sql
  | e :: f :: rest => e.sql ++ ", " ++ sqlList (f :: rest)

end

theorem sqlList_eq_listed (es : List Expression) : sqlList es = listed (es.map sql) := by
  induction es with
  | nil => rfl
  | cons e es ih =>
    cases es with
    | nil => rfl
    | cons f es => simp only [sqlList, ih, List.map_cons, listed]

/-! ### Equality of expressions is decidable -/

mutual

/-- Decides whether two expressions are the same. -/
def decEq : (a b : Expression) → Decidable (a = b)
  | identifier x, b => match b with
    | identifier y => decidable_of_iff (x = y) (by simp)
    | string _ | number _ | boolean _ | null | group _ | unary _ _ | binary _ _ _ | call _ _
    | type _ => isFalse nofun
  | string x, b => match b with
    | string y => decidable_of_iff (x = y) (by simp)
    | identifier _ | number _ | boolean _ | null | group _ | unary _ _ | binary _ _ _ | call _ _
    | type _ => isFalse nofun
  | number x, b => match b with
    | number y => decidable_of_iff (x = y) (by simp)
    | identifier _ | string _ | boolean _ | null | group _ | unary _ _ | binary _ _ _ | call _ _
    | type _ => isFalse nofun
  | boolean x, b => match b with
    | boolean y => decidable_of_iff (x = y) (by simp)
    | identifier _ | string _ | number _ | null | group _ | unary _ _ | binary _ _ _ | call _ _
    | type _ => isFalse nofun
  | null, b => match b with
    | null => isTrue rfl
    | identifier _ | string _ | number _ | boolean _ | group _ | unary _ _ | binary _ _ _ | call _ _
    | type _ => isFalse nofun
  | group x, b => match b with
    | group y => match decEq x y with
      | isTrue h => isTrue (congrArg group h)
      | isFalse h => isFalse fun e => h (by injection e)
    | identifier _ | string _ | number _ | boolean _ | null | unary _ _ | binary _ _ _ | call _ _
    | type _ => isFalse nofun
  | unary op x, b => match b with
    | unary op' y => match decEq x y with
      | isTrue h => decidable_of_iff (op = op') (by simp [h])
      | isFalse h => isFalse fun e => h (by injection e)
    | identifier _ | string _ | number _ | boolean _ | null | group _ | binary _ _ _ | call _ _
    | type _ => isFalse nofun
  | binary x op y, b => match b with
    | binary x' op' y' => match decEq x x', decEq y y' with
      | isTrue h, isTrue h' => decidable_of_iff (op = op') (by simp [h, h'])
      | isFalse h, _ => isFalse fun e => h (by injection e)
      | _, isFalse h => isFalse fun e => h (by injection e)
    | identifier _ | string _ | number _ | boolean _ | null | group _ | unary _ _ | call _ _
    | type _ => isFalse nofun
  | call f xs, b => match b with
    | call g ys => match decEq f g, decEqList xs ys with
      | isTrue h, isTrue h' => isTrue (by rw [h, h'])
      | isFalse h, _ => isFalse fun e => h (by injection e)
      | _, isFalse h => isFalse fun e => h (by injection e)
    | identifier _ | string _ | number _ | boolean _ | null | group _ | unary _ _ | binary _ _ _
    | type _ => isFalse nofun
  | type x, b => match b with
    | type y => decidable_of_iff (x = y) (by simp)
    | identifier _ | string _ | number _ | boolean _ | null | group _ | unary _ _ | binary _ _ _
    | call _ _ => isFalse nofun

/-- Decides whether two lists of expressions are the same. -/
def decEqList : (as bs : List Expression) → Decidable (as = bs)
  | [], [] => isTrue rfl
  | [], _ :: _ => isFalse nofun
  | _ :: _, [] => isFalse nofun
  | a :: as, b :: bs => match decEq a b, decEqList as bs with
    | isTrue h, isTrue h' => isTrue (by rw [h, h'])
    | isFalse h, _ => isFalse fun e => h (by injection e)
    | _, isFalse h => isFalse fun e => h (by injection e)

end

instance : DecidableEq Expression := decEq

end Expression

end SchemaPatch
