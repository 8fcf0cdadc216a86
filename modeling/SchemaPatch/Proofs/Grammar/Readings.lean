import SchemaPatch.Proofs.Grammar.ReadsExpression
import SchemaPatch.Proofs.Grammar.SoundExpression

/-!
# Readings of expressions

What it is for an expression to be a reading of tokens above a floor is said without a parser
(`Expression.IsReading`): the tokens write it, it nests as its operators bind, and neither more nor
less of the tokens belongs to it. The rule for expressions finds a reading exactly where there is
one, and there is never a second one (`Rule.expression_eq_ok_iff`).
-/

namespace SchemaPatch

/-- An expression is a reading of the tokens up to `rest`, with operators above `floor`. -/
structure Expression.IsReading (floor : Precedence) (ts : List Token) (e : Expression)
    (rest : List Token) : Prop where
  /-- The tokens up to `rest` are those of the expression, in order. -/
  written : e.Written ts rest
  /-- A left operand binds at least as strongly as its operator and a right one more strongly, or is
  the type of a cast; behind a sign there is no operator between operands; and what is called is an
  operand by itself or a cast to a type that takes no modifier, which the call then binds like. -/
  nested : e.Nested
  /-- The outermost operator binds more strongly than the floor. -/
  above : e.Above floor
  /-- None of the operands and types at the end of the expression goes on in `rest`. -/
  stops : e.StopsAt rest
  /-- No operator that binds more strongly than the floor comes first in `rest`. -/
  closes : Closes floor rest

namespace Rule

variable {floor : Precedence} {ts rest : List Token} {e : Expression}

theorem isReading_of_expression (h : expression floor ts = .ok (e, rest)) :
    e.IsReading floor ts rest := by
  obtain ⟨he, habove, hcloses⟩ := expression_sound h
  exact ⟨he.written, he.nested, habove, he.stops, hcloses⟩

theorem expression_of_isReading (h : e.IsReading floor ts rest) :
    expression floor ts = .ok (e, rest) :=
  expression_of_written h.nested h.above h.written h.stops h.closes

/-- **Expressions are read by how strongly their operators bind**: the rule succeeds exactly with the
readings of the tokens, it takes tokens from the front, and no tokens have two readings. -/
theorem expression_eq_ok_iff (floor : Precedence) (ts : List Token) :
    (∀ (e : Expression) (rest : List Token),
      expression floor ts = .ok (e, rest) ↔ e.IsReading floor ts rest) ∧
    (∀ (e : Expression) (rest : List Token),
      e.IsReading floor ts rest → ∃ used, used ≠ [] ∧ ts = used ++ rest) ∧
    ∀ (e e' : Expression) (rest rest' : List Token),
      e.IsReading floor ts rest → e'.IsReading floor ts rest' → e = e' ∧ rest = rest' := by
  refine ⟨fun e rest => ⟨isReading_of_expression, expression_of_isReading⟩, ?_, ?_⟩
  · intro e rest h
    obtain ⟨used, hused, -⟩ := h.nested.passes h.written
    have hlt := h.nested.length_lt h.written
    refine ⟨used, ?_, hused⟩
    rintro rfl
    simp [hused] at hlt
  · intro e e' rest rest' h h'
    have hsame := (expression_of_isReading h).symm.trans (expression_of_isReading h')
    exact Prod.mk.inj (Except.ok.inj hsame)

/-- Differences group to the left, and products bind more strongly. -/
example : expression .lowest [⟨.number, "1", 1⟩, ⟨.minus, "-", 1⟩, ⟨.number, "2", 1⟩,
      ⟨.asterisk, "*", 1⟩, ⟨.number, "3", 1⟩, ⟨.minus, "-", 1⟩, ⟨.number, "4", 1⟩] =
    .ok (.binary (.binary (.number "1") .sub (.binary (.number "2") .mul (.number "3"))) .sub
      (.number "4"), []) := by
  cbv

end Rule

end SchemaPatch
