import SchemaPatch.Grammar.DataType
import SchemaPatch.Grammar.Precedence
import SchemaPatch.Proofs.Token.Symbol

/-!
# How expressions nest

An expression is written without parentheses of its own, so only those whose operators nest as they
bind can be read back. `Expression.Nested` says which these are: an operand on the left binds at
least as strongly as its operator, one on the right more strongly, and behind a cast to a type that
could take modifiers there is no call.

Reading also depends on what follows: `Expression.StopsAt` says that nothing of it belongs to the
expression or to one of its right operands, and `Closes` that no operator stronger than a floor
follows.
-/

namespace SchemaPatch

/-- How strongly an operator binds. -/
def BinaryOp.precedence : BinaryOp → Precedence
  | add | sub => .sum
  | mul | div => .product
  | typecast => .typecast
  | is | isNot => .is

namespace Precedence

theorem not_le {p q : Precedence} : ¬ p ≤ q ↔ q < p := Nat.not_le

@[simp] theorem ofKind?_leftParen : ofKind? .leftParen = some call := rfl

@[simp] theorem ofKind?_is : ofKind? (.keyword .IS) = some is := rfl

@[simp] theorem ofKind?_typecast : ofKind? .typecast = some typecast := rfl

@[simp] theorem ofKind?_unterminated : ofKind? .unterminated = none := rfl

/-- How strongly the first of the tokens binds behind an operand; `none` if it is no operator. -/
def ofFront? (ts : List Token) : Option Precedence := ts.head?.bind fun t => ofKind? t.kind

end Precedence

/-- No operator that binds more strongly than `floor` comes first. -/
def Closes (floor : Precedence) (ts : List Token) : Prop :=
  ∀ p, Precedence.ofFront? ts = some p → p ≤ floor

theorem closes_nil (floor : Precedence) : Closes floor [] := by simp [Closes, Precedence.ofFront?]

theorem closes_cons {floor : Precedence} {t : Token} {ts : List Token} :
    Closes floor (t :: ts) ↔ ∀ p, Precedence.ofKind? t.kind = some p → p ≤ floor := by
  simp [Closes, Precedence.ofFront?]

theorem Closes.not_begins_leftParen {floor : Precedence} {ts : List Token} (h : Closes floor ts)
    (hf : floor < .call := by decide) : ¬ Begins .leftParen ts := by
  cases ts with
  | nil => simp
  | cons t ts =>
    rw [begins_cons]
    intro hk
    exact Nat.not_le.2 hf (closes_cons.1 h .call (by rw [hk]; rfl))

theorem BinaryOp.precedence_of_ofKind? {kind : Token.Kind} {op : BinaryOp}
    (h : BinaryOp.ofKind? kind = some op) : Precedence.ofKind? kind = some op.precedence := by
  cases kind <;> cases h <;> rfl

/-- The cast operator is none of the arithmetic ones. -/
theorem BinaryOp.ofKind?_ne_typecast (kind : Token.Kind) :
    BinaryOp.ofKind? kind ≠ some .typecast := by
  unfold BinaryOp.ofKind?
  split <;> simp

@[simp] theorem UnaryOp.ofKind?_unterminated : UnaryOp.ofKind? .unterminated = none := rfl

namespace DataType

/-- A type that has a spelling of its own: it has no scale without a precision. -/
def IsReadable : DataType → Prop
  | numeric none (some _) => False
  | _ => True

/-- Whether modifiers could still follow the text of a type. -/
def isOpen : DataType → Bool
  | character _ none | numeric none _ => true
  | _ => false

/-- What follows a type is not read as a part of it. -/
def StopsAt (t : DataType) (ts : List Token) : Prop :=
  (t.isOpen → ¬ Begins .leftParen ts) ∧ (t = .character false none → ¬ Begins (.keyword .VARYING) ts)

end DataType

namespace Expression

/-- How strongly an expression holds together. A call is as strong as its callee, which is a cast if
it is no operand by itself. -/
def strength : Expression → Precedence
  | unary _ _ => .sign
  | binary _ op _ => op.precedence
  | call callee _ => callee.strength
  | _ => .call

/-- The operators of an expression, if it is one between operands or a call, bind more strongly than
`floor`. -/
def Above (floor : Precedence) : Expression → Prop
  | e@(binary _ _ _) | e@(call _ _) => floor < e.strength
  | _ => True

/-- Whether arguments behind an expression make a call of all of it. -/
def isCallee : Expression → Bool
  | binary _ .typecast (type t) => !t.isOpen
  | unary _ _ | binary _ _ _ | type _ => false
  | _ => true

theorem Above.lt_strength {floor : Precedence} {e : Expression} (h : e.Above floor)
    (hc : e.isCallee) (hf : floor < .call) : floor < e.strength := by
  cases e with
  | unary | type => cases hc
  | binary | call => exact h
  | _ => exact hf

/-- The operators of an expression nest as they bind. -/
inductive Nested : Expression → Prop where
  /-- A name. -/
  | identifier (name : Identifier) : Nested (identifier name)
  /-- A string. -/
  | string (literal : String) : Nested (string literal)
  /-- A number. -/
  | number (literal : String) : Nested (number literal)
  /-- A truth value. -/
  | boolean (value : Bool) : Nested (boolean value)
  /-- The null value. -/
  | null : Nested null
  /-- An expression between parentheses. -/
  | group {inner : Expression} : Nested inner → Nested (group inner)
  /-- A sign before an operand that is neither a sum, a product, a cast nor a predicate. -/
  | unary {op : UnaryOp} {operand : Expression} : Nested operand → operand.Above .sign →
      Nested (unary op operand)
  /-- Operands as strong as the operator wants them. -/
  | binary {left right : Expression} {op : BinaryOp} : Nested left → op.precedence ≤ left.strength →
      Nested right → right.Above op.precedence → Nested (binary left op right)
  /-- A cast to a built-in type. -/
  | cast {left : Expression} {t : DataType} : Nested left → Precedence.typecast ≤ left.strength →
      t.IsReadable → Nested (binary left .typecast (type t))
  /-- A call with its arguments. -/
  | call {callee : Expression} {args : List Expression} : Nested callee → callee.isCallee →
      (∀ e ∈ args, Nested e) → Nested (call callee args)

/-- Whether an expression is a built-in type, which is none by itself. -/
def isType : Expression → Bool
  | type _ => true
  | _ => false

/-- What follows an expression is not read as a part of it or of its right operands. -/
def StopsAt : Expression → List Token → Prop
  | unary _ operand, ts => ¬ Begins .leftParen ts ∧ operand.StopsAt ts
  | binary _ op right, ts => (right.isType ∨ Closes op.precedence ts) ∧ right.StopsAt ts
  | type t, ts => t.StopsAt ts
  | _, _ => True

theorem Nested.isType_eq_false {e : Expression} (h : e.Nested) : e.isType = false := by
  cases h <;> rfl

theorem Nested.typecast_le_strength {e : Expression} (h : e.Nested) (hc : e.isCallee) :
    Precedence.typecast ≤ e.strength := by
  induction h with
  | unary => cases hc
  | @binary left right op _ _ hr _ =>
    cases right with
    | type t => cases hr
    | _ => cases op <;> cases hc
  | cast => exact Nat.le_refl _
  | call _ hcc _ ih _ => exact ih hcc
  | _ => exact (by decide : Precedence.typecast ≤ Precedence.call)

/-- An operator that follows binds at most as strongly as the expression holds together. -/
theorem Nested.le_strength {e : Expression} {ts : List Token} {p : Precedence} (h : e.Nested)
    (hs : e.StopsAt ts) (hp : Precedence.ofFront? ts = some p) (hle : p ≤ .typecast) :
    p ≤ e.strength := by
  cases h with
  | unary => exact Nat.le_trans hle (by decide : Precedence.typecast ≤ Precedence.sign)
  | binary _ _ hr _ => exact (hs.1.resolve_left (by simp [hr.isType_eq_false])) p hp
  | cast => exact hle
  | call hn hc _ => exact Nat.le_trans hle (hn.typecast_le_strength hc)
  | _ => exact Nat.le_trans hle (by decide : Precedence.typecast ≤ Precedence.call)

/-- An expression behind which an opening parenthesis is not its own can be called. -/
theorem Nested.isCallee_of_stopsAt {e : Expression} {ts : List Token} (h : e.Nested)
    (hs : e.StopsAt ts) (hb : Begins .leftParen ts) : e.isCallee := by
  cases h with
  | unary => exact absurd hb hs.1
  | @binary left right op _ _ hr _ =>
    have hc := hs.1.resolve_left (by simp [hr.isType_eq_false])
    exact absurd hb (hc.not_begins_leftParen (by cases op <;> decide))
  | @cast left t =>
    have ht : t.isOpen = false := Bool.eq_false_iff.2 fun ho => hs.2.1 ho hb
    simp [isCallee, ht]
  | _ => rfl

/-- The strings and numbers in an expression are symbols with a property. -/
inductive Spelled (S : Symbol → Prop) : Expression → Prop where
  /-- A name. -/
  | identifier (name : Identifier) : Spelled S (identifier name)
  /-- A string with the property. -/
  | string {literal : String} : S ⟨.string, literal⟩ → Spelled S (string literal)
  /-- A number with the property. -/
  | number {literal : String} : S ⟨.number, literal⟩ → Spelled S (number literal)
  /-- A truth value. -/
  | boolean (value : Bool) : Spelled S (boolean value)
  /-- The null value. -/
  | null : Spelled S null
  /-- An expression between parentheses. -/
  | group {inner : Expression} : Spelled S inner → Spelled S (group inner)
  /-- An operand behind a sign. -/
  | unary {op : UnaryOp} {operand : Expression} : Spelled S operand → Spelled S (unary op operand)
  /-- Two operands around an operator. -/
  | binary {left right : Expression} {op : BinaryOp} : Spelled S left → Spelled S right →
      Spelled S (binary left op right)
  /-- A call with its arguments. -/
  | call {callee : Expression} {args : List Expression} : Spelled S callee →
      (∀ e ∈ args, Spelled S e) → Spelled S (call callee args)
  /-- A built-in type. -/
  | type (t : DataType) : Spelled S (type t)

theorem Spelled.imp {S T : Symbol → Prop} {e : Expression} (h : ∀ x, S x → T x)
    (he : e.Spelled S) : e.Spelled T := by
  induction he with
  | identifier name => exact .identifier name
  | string hs => exact .string (h _ hs)
  | number hs => exact .number (h _ hs)
  | boolean value => exact .boolean value
  | null => exact .null
  | group _ ih => exact .group ih
  | unary _ ih => exact .unary ih
  | binary _ _ ihl ihr => exact .binary ihl ihr
  | call _ _ ihc iha => exact .call ihc iha
  | type t => exact .type t

end Expression

end SchemaPatch
