import SchemaPatch.Grammar.DataType
import SchemaPatch.Grammar.Precedence

/-!
# Reading expressions

An expression is an operand and, for as long as an operator follows that binds more strongly than a
given floor, that operator and its right operand. Operators of one strength group to the left. The
right operand of a cast may be a built-in type, and a call's arguments follow its callee between
parentheses.
-/

namespace SchemaPatch.Rule

mutual

/-- An expression whose operators bind more strongly than `floor`. -/
def expression (floor : Precedence) (ts : List Token) : Except Fault (Expression × List Token) :=
  match operand ts with
  | .error f => .error f
  | .ok (left, rest) =>
    if rest.length < ts.length then operators floor left rest else .ok (left, rest)
termination_by 6 * ts.length + 2

/-- A literal, a name, an expression between parentheses, or an operand behind a sign. -/
def operand (ts : List Token) : Except Fault (Expression × List Token) :=
  match ts with
  | [] => .error (unexpected "expression" [])
  | t :: rest =>
    match t.kind with
    | .string => .ok (.string t.literal, rest)
    | .number => .ok (.number t.literal, rest)
    | .keyword .TRUE => .ok (.boolean true, rest)
    | .keyword .FALSE => .ok (.boolean false, rest)
    | .keyword .NULL => .ok (.null, rest)
    | .leftParen =>
      match expression .lowest rest with
      | .error f => .error f
      | .ok (inner, rest') =>
        match expect .rightParen rest' with
        | .error f => .error f
        | .ok ((), rest'') => .ok (.group inner, rest'')
    | kind =>
      match UnaryOp.ofKind? kind with
      | some op =>
        match expression .sign rest with
        | .error f => .error f
        | .ok (inner, rest') => .ok (.unary op inner, rest')
      | none =>
        if t.isIdentifier then .ok (.identifier (Identifier.ofLiteral t.literal), rest)
        else .error (unexpected "expression" (t :: rest))
termination_by 6 * ts.length + 1

/-- Extends an expression by the operators that follow it and bind more strongly than `floor`. -/
def operators (floor : Precedence) (left : Expression) (ts : List Token) :
    Except Fault (Expression × List Token) :=
  match ts with
  | [] => .ok (left, [])
  | t :: rest =>
    match Precedence.ofKind? t.kind with
    | none => .ok (left, t :: rest)
    | some p =>
      if p ≤ floor then .ok (left, t :: rest)
      else
        match extend left p t.kind rest with
        | .error f => .error f
        | .ok (left', rest') =>
          if rest'.length < (t :: rest).length then operators floor left' rest'
          else .ok (left', rest')
termination_by 6 * ts.length
decreasing_by all_goals simp only [List.length_cons] at *; omega

/-- Extends an expression by one operator, which stands before `rest` and binds like `p`. -/
def extend (left : Expression) (p : Precedence) (kind : Token.Kind) (rest : List Token) :
    Except Fault (Expression × List Token) :=
  match kind with
  | .leftParen =>
    match arguments rest with
    | .error f => .error f
    | .ok (args, rest') => .ok (.call left args, rest')
  | .keyword .IS =>
    match rest with
    | t :: behindNot =>
      if t.kind = .keyword .NOT then
        match expression p behindNot with
        | .error f => .error f
        | .ok (right, rest') => .ok (.binary left .isNot right, rest')
      else
        match expression p (t :: behindNot) with
        | .error f => .error f
        | .ok (right, rest') => .ok (.binary left .is right, rest')
    | [] => .error (unexpected "expression" [])
  | .typecast =>
    if (rest.head?.bind Token.keyword?).any beginsType then
      match dataType rest with
      | .error f => .error f
      | .ok (type, rest') => .ok (.binary left .typecast (.type type), rest')
    else
      match expression p rest with
      | .error f => .error f
      | .ok (right, rest') => .ok (.binary left .typecast right, rest')
  | kind =>
    match BinaryOp.ofKind? kind with
    | some op =>
      match expression p rest with
      | .error f => .error f
      | .ok (right, rest') => .ok (.binary left op right, rest')
    | none => .error (unexpected "operator" rest)
termination_by 6 * rest.length + 5

/-- The arguments of a call behind its opening parenthesis, up to the closing one. -/
def arguments (ts : List Token) : Except Fault (List Expression × List Token) :=
  match ts with
  | t :: rest =>
    if t.kind = .rightParen then .ok ([], rest) else argumentList (t :: rest)
  | [] => .error (unexpected "expression" [])
termination_by 6 * ts.length + 4

/-- Arguments with commas between them, up to the closing parenthesis. -/
def argumentList (ts : List Token) : Except Fault (List Expression × List Token) :=
  match expression .lowest ts with
  | .error f => .error f
  | .ok (arg, rest) =>
    match rest with
    | t :: rest' =>
      if t.kind = .comma ∧ rest'.length < ts.length then
        match argumentList rest' with
        | .error f => .error f
        | .ok (args, rest'') => .ok (arg :: args, rest'')
      else
        match expect .rightParen (t :: rest') with
        | .error f => .error f
        | .ok ((), rest'') => .ok ([arg], rest'')
    | [] => .error (unexpected Token.Kind.rightParen.describe [])
termination_by 6 * ts.length + 3

end

end SchemaPatch.Rule
