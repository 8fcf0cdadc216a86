import SchemaPatch.Grammar.Expression
import SchemaPatch.Proofs.Grammar.ReadsType
import SchemaPatch.Proofs.Sql.Readable

/-!
# Reading back expressions

An expression that nests is read from whatever tokens write it, if nothing that follows belongs to it
(`Rule.expression_of_written`). It is shown first that the tokens bring reading to where the
expression is the left operand of whatever follows (`Rule.expression_eq_operators`). Its symbols are
tokens that write it, so it is read back from them (`Rule.Reads.expression`).
-/

namespace SchemaPatch

variable {ts mid rest : List Token}

/-! ### What follows expressions -/

theorem Precedence.le_call (q : Precedence) : q ≤ .call := by
  cases q <;> decide

theorem Follows.closes (h : Follows Token.Kind.isQuiet ts) (floor : Precedence) :
    Closes floor ts := by
  cases ts with
  | nil => exact closes_nil floor
  | cons t ts =>
    rw [follows_cons] at h
    rw [closes_cons]
    intro p hp
    cases hk : t.kind with
    | keyword k => cases k <;> simp [hk, Token.Kind.isQuiet, Precedence.ofKind?] at h hp
    | _ => simp [hk, Token.Kind.isQuiet, Precedence.ofKind?] at h hp

namespace Expression

variable {e : Expression} {floor : Precedence}

/-- What ends every expression ends an expression that nests. -/
theorem Nested.stopsAt_of_isQuiet (he : e.Nested) (h : Follows Token.Kind.isQuiet ts) :
    e.StopsAt ts := by
  induction he with
  | unary _ _ ih => exact ⟨(h.closes .lowest).not_begins_leftParen, ih⟩
  | @binary _ _ op _ _ _ _ _ ih => exact ⟨.inr (h.closes op.precedence), ih⟩
  | @cast _ t => exact ⟨.inl rfl, t.stopsAt_of_isQuiet h⟩
  | _ => exact trivial

theorem Above.le_strength {q : Precedence} (h : e.Above floor) (hf : q ≤ floor) (hs : q ≤ .sign) :
    q ≤ e.strength := by
  cases e with
  | unary => exact hs
  | binary | call => exact Nat.le_trans hf (Nat.le_of_lt h)
  | _ => exact Nat.le_trans hs (by decide : Precedence.sign ≤ Precedence.call)

theorem above_of_lt_strength (h : floor < e.strength) : e.Above floor := by
  cases e with
  | binary | call => exact h
  | _ => exact trivial

/-- All operators are above the lowest strength. -/
theorem Nested.above_lowest (he : e.Nested) : e.Above .lowest := by
  cases he with
  | @binary _ _ op => exact (by cases op <;> decide : Precedence.lowest < op.precedence)
  | cast => exact (by decide : Precedence.lowest < Precedence.typecast)
  | call hn hc _ =>
    exact Nat.lt_of_lt_of_le (by decide : Precedence.lowest < Precedence.typecast)
      (hn.typecast_le_strength hc)
  | _ => exact trivial

/-- An operator that binds no more strongly than an expression holds together ends it. -/
theorem Nested.stopsAt_of_le_strength {q : Precedence} (he : e.Nested) (hq : q ≤ e.strength)
    (hc : q ≤ .typecast) (hts : Precedence.ofFront? ts = some q) : e.StopsAt ts := by
  have hparen : ¬ Begins .leftParen ts := by
    have hclose : Closes .typecast ts := by
      intro q' hq'
      rw [hts] at hq'
      cases hq'
      exact hc
    exact hclose.not_begins_leftParen
  have hsign : q ≤ .sign := Nat.le_trans hc (by decide : Precedence.typecast ≤ Precedence.sign)
  induction he with
  | unary _ ha ih => exact ⟨hparen, ih (ha.le_strength hsign hsign)⟩
  | @binary _ _ op _ _ _ ha _ ih =>
    refine ⟨.inr fun q' hq' => ?_, ih (ha.le_strength hq hsign)⟩
    rw [hts] at hq'
    cases hq'
    exact hq
  | @cast _ t =>
    refine ⟨.inl rfl, fun _ => hparen, fun _ hb => ?_⟩
    cases ts with
    | nil => simp at hb
    | cons u us =>
      rw [begins_cons] at hb
      simp [Precedence.ofFront?, hb, Precedence.ofKind?] at hts
  | _ => exact trivial

/-- An expression that can be called ends anywhere. -/
theorem Nested.stopsAt_of_isCallee (he : e.Nested) (hc : e.isCallee) : e.StopsAt ts := by
  cases he with
  | unary => cases hc
  | @binary _ right op _ _ hr _ =>
    cases right with
    | type => cases hr
    | _ => cases op <;> cases hc
  | @cast _ t =>
    have hopen : t.isOpen = false := by simpa [isCallee] using hc
    refine ⟨.inl rfl, fun ho => absurd ho (by simp [hopen]), fun ht => ?_⟩
    rw [ht] at hopen
    cases hopen
  | _ => exact trivial

/-- Only an opening parenthesis binds more strongly than a sign. -/
theorem closes_sign (h : ¬ Begins .leftParen ts) : Closes .sign ts := by
  cases ts with
  | nil => exact closes_nil .sign
  | cons t ts =>
    rw [begins_cons] at h
    rw [closes_cons]
    intro q hq
    unfold Precedence.ofKind? at hq
    split at hq <;> cases hq <;> first | exact absurd ‹_› h | decide

/-- The symbols of an expression do not begin with the keyword of a type. -/
theorem Nested.front (he : e.Nested) :
    ∃ x xs, e.symbols = x :: xs ∧ x.kind.keyword?.any Rule.beginsType = false := by
  have happend : ∀ {xs ys : List Symbol},
      (∃ x xs', xs = x :: xs' ∧ x.kind.keyword?.any Rule.beginsType = false) →
        ∃ x xs', xs ++ ys = x :: xs' ∧ x.kind.keyword?.any Rule.beginsType = false := by
    rintro xs ys ⟨x, xs', rfl, hx⟩
    exact ⟨x, xs' ++ ys, rfl, hx⟩
  induction he with
  | identifier | string | number | null => exact ⟨_, _, rfl, rfl⟩
  | boolean value => cases value <;> exact ⟨_, _, rfl, rfl⟩
  | group => exact ⟨_, _, rfl, rfl⟩
  | @unary op => cases op <;> exact ⟨_, _, rfl, rfl⟩
  | binary _ _ _ _ ih _ => exact happend (happend ih)
  | cast _ _ _ ih => exact happend (happend ih)
  | call _ _ _ ih _ => exact happend ih

/-- The symbols of arguments write them if those of each argument write it. -/
theorem writtenList_of_spells {es : List Expression} (hs : Spells (symbolsList es) ts rest)
    (hes : ∀ e ∈ es, ∀ {ts rest}, Spells e.symbols ts rest → e.Written ts rest) :
    WrittenList es ts rest := by
  induction es generalizing ts with
  | nil => exact spells_nil.1 hs
  | cons e es ih =>
    obtain ⟨he, hes⟩ := List.forall_mem_cons.1 hes
    cases es with
    | nil => exact he hs
    | cons f es =>
      obtain ⟨mid, hfirst, hmore⟩ := spells_append.1 hs
      obtain ⟨t, mid, rfl, ht, hrest⟩ := spells_cons.1 hmore
      exact ⟨t, mid, he hfirst, congrArg Symbol.kind ht, ih hrest hes⟩

/-- The symbols of an expression write it. -/
theorem Nested.written_of_spells (he : e.Nested) (hs : Spells e.symbols ts rest) :
    e.Written ts rest := by
  have hone : ∀ {x : Symbol} {ts rest : List Token}, Spells [x] ts rest →
      ∃ t, ts = t :: rest ∧ t.symbol = x := by
    intro x ts rest hs
    obtain ⟨t, mid, rfl, ht, hnil⟩ := spells_cons.1 hs
    exact ⟨t, by rw [spells_nil.1 hnil], ht⟩
  induction he generalizing ts rest with
  | identifier name =>
    obtain ⟨t, rfl, ht⟩ := hone hs
    obtain ⟨hkind, hliteral⟩ := Symbol.mk.inj ht
    exact ⟨t, rfl, by rw [Token.isIdentifier, hkind], by rw [hliteral, Identifier.ofLiteral_sql]⟩
  | string literal | number literal => exact hone hs
  | boolean value =>
    cases value <;>
    · obtain ⟨t, rfl, ht⟩ := hone hs
      exact ⟨t, rfl, congrArg Symbol.kind ht⟩
  | null =>
    obtain ⟨t, rfl, ht⟩ := hone hs
    exact ⟨t, rfl, congrArg Symbol.kind ht⟩
  | group _ ih =>
    obtain ⟨t, mid, rfl, ht, hmid⟩ := spells_cons.1 hs
    obtain ⟨mid', hinner, hclose⟩ := spells_append.1 hmid
    obtain ⟨u, rfl, hu⟩ := hone hclose
    exact ⟨t, mid, u, rfl, congrArg Symbol.kind ht, ih hinner, congrArg Symbol.kind hu⟩
  | unary _ _ ih =>
    obtain ⟨t, mid, rfl, ht, hoperand⟩ := spells_cons.1 hs
    exact ⟨t, mid, rfl, congrArg Symbol.kind ht, ih hoperand⟩
  | @binary left right op _ _ hr _ ihl ihr =>
    obtain ⟨mid', hx, hright⟩ := spells_append.1 hs
    obtain ⟨mid, hleft, hop⟩ := spells_append.1 hx
    refine ⟨mid, mid', ihl hleft, hop.forms, ihr hright, fun _ hbegins => ?_⟩
    obtain ⟨y, ys, hy, hfront⟩ := hr.front
    rw [hy] at hright
    obtain ⟨u, us, rfl, rfl, -⟩ := spells_cons.1 hright
    exact absurd (hbegins.symm.trans hfront) (by simp)
  | cast _ _ _ ih =>
    obtain ⟨mid', hx, hright⟩ := spells_append.1 hs
    obtain ⟨mid, hleft, hop⟩ := spells_append.1 hx
    exact ⟨mid, mid', ih hleft, hop.forms, .inl hright.forms, fun _ _ => rfl⟩
  | call _ _ _ ih iha =>
    obtain ⟨mid, hcallee, hmid⟩ := spells_append.1 hs
    obtain ⟨t, mid, rfl, ht, hspells⟩ := spells_cons.1 hmid
    obtain ⟨mid', hlist, hclose⟩ := spells_append.1 hspells
    obtain ⟨u, rfl, hu⟩ := hone hclose
    exact ⟨t, mid, u, ih hcallee, congrArg Symbol.kind ht, writtenList_of_spells hlist iha,
      congrArg Symbol.kind hu⟩

end Expression

/-! ### Expressions -/

namespace Rule

variable {floor : Precedence} {left : Expression}

theorem expression_of_operand {e : Expression} (h : operand ts = .ok (e, rest))
    (hlt : rest.length < ts.length) : expression floor ts = operators floor e rest := by
  rw [expression, h]
  simp only [hlt, if_true]

theorem operators_of_closes (h : Closes floor ts) : operators floor left ts = .ok (left, ts) := by
  cases ts with
  | nil => rw [operators]
  | cons t ts =>
    rw [operators]
    split
    · rfl
    · next q hq => rw [if_pos (closes_cons.1 h q hq)]

theorem operators_of_extend {t : Token} {left' : Expression} {q : Precedence}
    (hq : Precedence.ofKind? t.kind = some q) (hf : floor < q)
    (h : extend left q t.kind ts = .ok (left', rest)) (hlt : rest.length ≤ ts.length) :
    operators floor left (t :: ts) = operators floor left' rest := by
  have hnot : ¬ q ≤ floor := Nat.not_le.2 hf
  have hlt' : rest.length < (t :: ts).length := Nat.lt_succ_of_le hlt
  rw [operators]
  simp only [hq, hnot, if_false, h, hlt', if_true]

/-! ### Arguments -/

/-- Where a token ends every expression, an expression is read exactly where it is written. -/
def Complete (e : Expression) : Prop :=
  ∀ ⦃ts rest⦄, e.Written ts rest → Follows Token.Kind.isQuiet rest →
    expression .lowest ts = .ok (e, rest)

theorem argumentList_of_written {args : List Expression} {u : Token} (hne : args ≠ [])
    (hnest : ∀ e ∈ args, e.Nested) (h : ∀ e ∈ args, Complete e)
    (hs : Expression.WrittenList args ts (u :: rest)) (hu : u.kind = .rightParen) :
    argumentList ts = .ok (args, rest) := by
  induction args generalizing ts with
  | nil => exact absurd rfl hne
  | cons e args ih =>
    obtain ⟨he, hargs⟩ := List.forall_mem_cons.1 h
    obtain ⟨hen, hnest⟩ := List.forall_mem_cons.1 hnest
    cases args with
    | nil =>
      rw [argumentList, he hs (by rw [follows_cons, hu]; rfl)]
      simp [hu, expect]
    | cons f args =>
      obtain ⟨t, mid, hfirst, ht, hmore⟩ := hs
      have hlt := hen.length_lt hfirst
      have hlength : mid.length < ts.length := Nat.lt_trans (Nat.lt_succ_self _) hlt
      rw [argumentList, he hfirst (by rw [follows_cons, ht]; rfl)]
      simp only [ht, hlength, and_self, if_true, ih (by simp) hnest hargs hmore]

theorem arguments_of_written {args : List Expression} {u : Token} (hnest : ∀ e ∈ args, e.Nested)
    (h : ∀ e ∈ args, Complete e) (hs : Expression.WrittenList args ts (u :: rest))
    (hu : u.kind = .rightParen) : arguments ts = .ok (args, rest) := by
  cases args with
  | nil =>
    rw [Expression.WrittenList] at hs
    rw [hs, arguments, if_pos hu]
  | cons e args =>
    have hlist := argumentList_of_written (by simp) hnest h hs hu
    obtain ⟨t, mid, rfl, ht⟩ : ∃ t mid, ts = t :: mid ∧ Expression.beginsOperand t.kind := by
      have he := hnest e (List.mem_cons_self ..)
      cases args with
      | nil =>
        obtain ⟨t, mid, rfl, ht, -⟩ := he.begins hs
        exact ⟨t, mid, rfl, ht⟩
      | cons f args =>
        obtain ⟨_, _, hfirst, -⟩ := hs
        obtain ⟨t, mid, rfl, ht, -⟩ := he.begins hfirst
        exact ⟨t, mid, rfl, ht⟩
    have hparen : t.kind ≠ .rightParen := fun hk => by
      rw [hk] at ht
      cases ht
    rw [arguments, if_neg hparen, hlist]

/-! ### Operands and operators -/

theorem operand_of_isIdentifier {t : Token} (ht : t.isIdentifier) :
    operand (t :: ts) = .ok (.identifier (Identifier.ofLiteral t.literal), ts) := by
  rw [operand]
  unfold Token.isIdentifier at ht
  split at ht
  · next hk => simp [hk, Token.isIdentifier, UnaryOp.ofKind?]
  · next k hk =>
    cases k <;> first
      | cases ht; done
      | simp [hk, Token.isIdentifier, UnaryOp.ofKind?, Keyword.isReserved]
  · cases ht

/-- A sign is followed by its operand. -/
theorem operand_sign {op : UnaryOp} {t : Token} {inner : Expression}
    (ht : t.kind = op.symbol.kind) (h : expression .sign ts = .ok (inner, rest)) :
    operand (t :: ts) = .ok (.unary op inner, rest) := by
  cases op <;>
  · rw [operand]
    simp [ht, UnaryOp.symbol, UnaryOp.ofKind?, h]

/-- Parentheses hold their expression. -/
theorem operand_group {inner : Expression} {t u : Token} (ht : t.kind = .leftParen)
    (hu : u.kind = .rightParen) (h : expression .lowest ts = .ok (inner, u :: rest)) :
    operand (t :: ts) = .ok (.group inner, rest) := by
  rw [operand]
  simp [ht, h, expect, hu]

theorem ofKind?_of_forms {op : BinaryOp} (hs : Forms op.symbols ts mid) :
    ∃ t us, ts = t :: us ∧ Precedence.ofKind? t.kind = some op.precedence ∧
      mid.length ≤ us.length := by
  cases op <;>
  · obtain ⟨t, us, rfl, ht, hus⟩ := forms_cons.1 hs
    have hpass := hus.passes (by simp)
    exact ⟨t, us, rfl, by rw [ht.1]; rfl, hpass.length_le⟩

/-- An operator between operands is followed by its right operand. -/
theorem extend_binary {op : BinaryOp} {right : Expression} {t u : Token} {us : List Token}
    (hs : Forms op.symbols (t :: ts) (u :: us)) (hu : u.kind ≠ .keyword .NOT)
    (htype : op = .typecast → u.keyword?.any beginsType = false)
    (h : expression op.precedence (u :: us) = .ok (right, rest)) :
    extend left op.precedence t.kind ts = .ok (.binary left op right, rest) := by
  rw [extend.eq_def]
  cases op with
  | isNot =>
    obtain ⟨_, _, ⟨⟩, ht, hmid⟩ := forms_cons.1 hs
    obtain ⟨t', _, rfl, ht', hnil⟩ := forms_cons.1 hmid
    obtain rfl := forms_nil.1 hnil
    have hkind : t.kind = .keyword .IS := ht.1
    have hkind' : t'.kind = .keyword .NOT := ht'.1
    simp only [hkind, hkind', if_true]
    rw [h]
  | is =>
    obtain ⟨_, _, ⟨⟩, ht, hnil⟩ := forms_cons.1 hs
    obtain rfl := forms_nil.1 hnil
    have hkind : t.kind = .keyword .IS := ht.1
    simp only [hkind, hu, if_false]
    rw [h]
  | typecast =>
    obtain ⟨_, _, ⟨⟩, ht, hnil⟩ := forms_cons.1 hs
    obtain rfl := forms_nil.1 hnil
    have hkind : t.kind = .typecast := ht.1
    have hhead : (((u :: us).head?).bind Token.keyword?).any beginsType = false := htype rfl
    simp only [hkind, hhead]
    rw [h]
    rfl
  | add | sub | mul | div =>
    obtain ⟨_, _, ⟨⟩, ht, hnil⟩ := forms_cons.1 hs
    obtain rfl := forms_nil.1 hnil
    simp only [ht.1, BinaryOp.ofKind?]
    rw [h]

/-- A cast to a built-in type is followed by the type. -/
theorem extend_cast {type : DataType} {t : Token} (ht : t.kind = .typecast)
    (hr : type.IsReadable) (hs : type.Written ts rest) (hstop : type.StopsAt rest) :
    extend left .typecast t.kind ts = .ok (.binary left .typecast (.type type), rest) := by
  rw [extend.eq_def]
  simp only [ht, hs.begins, if_true, dataType_of_written hr hs hstop]

/-! ### The whole -/

/-- Reading the tokens of an expression leads to where the expression is the left operand of what
follows. -/
theorem expression_eq_operators {e : Expression} (he : e.Nested) (ha : e.Above floor)
    (hstop : e.StopsAt rest) (hs : e.Written ts rest) :
    expression floor ts = operators floor e rest := by
  -- Where nothing stronger than the floor follows, the expression is all that is read.
  have hclosed : ∀ {e : Expression} {floor : Precedence} {ts rest : List Token},
      expression floor ts = operators floor e rest → Closes floor rest →
        expression floor ts = .ok (e, rest) := fun h hc => h.trans (operators_of_closes hc)
  have hlt := he.length_lt hs
  induction he generalizing floor ts rest with
  | identifier name =>
    obtain ⟨t, rfl, ht, rfl⟩ := hs
    exact expression_of_operand (operand_of_isIdentifier ht) hlt
  | string literal | number literal =>
    obtain ⟨t, rfl, ht⟩ := hs
    obtain ⟨hkind, rfl⟩ := Symbol.mk.inj ht
    exact expression_of_operand (by rw [operand]; simp [hkind]) hlt
  | boolean value =>
    obtain ⟨t, rfl, ht⟩ := hs
    cases value <;> exact expression_of_operand (by rw [operand]; simp [ht]) hlt
  | null =>
    obtain ⟨t, rfl, ht⟩ := hs
    exact expression_of_operand (by rw [operand]; simp [ht]) hlt
  | @group inner hinner ih =>
    obtain ⟨t, mid, u, rfl, ht, hx, hu⟩ := hs
    have hquiet : Follows Token.Kind.isQuiet (u :: rest) := by rw [follows_cons, hu]; rfl
    have hread := hclosed (ih hinner.above_lowest (hinner.stopsAt_of_isQuiet hquiet) hx
      (hinner.length_lt hx)) (hquiet.closes .lowest)
    exact expression_of_operand (operand_group ht hu hread) hlt
  | @unary op operand hn ha' ih =>
    obtain ⟨t, mid, rfl, ht, hx⟩ := hs
    have hread := hclosed (ih ha' hstop.2 hx (hn.length_lt hx)) (Expression.closes_sign hstop.1)
    exact expression_of_operand (operand_sign ht hread) hlt
  | @binary left right op hl hle hr har ihl ihr =>
    obtain ⟨mid, mid', hleft, hop, hright, htype⟩ := hs
    obtain ⟨t, mid, rfl, hq, hlength⟩ := ofKind?_of_forms hop
    have hfront : Precedence.ofFront? (t :: mid) = some op.precedence := hq
    have hle' : op.precedence ≤ .typecast := by cases op <;> decide
    have habove : left.Above floor := Expression.above_of_lt_strength (Nat.lt_of_lt_of_le ha hle)
    rw [ihl habove (hl.stopsAt_of_le_strength hle hle' hfront) hleft (hl.length_lt hleft)]
    have hclose := hstop.1.resolve_left (by simp [hr.isType_eq_false])
    have hread := hclosed (ihr har hstop.2 hright (hr.length_lt hright)) hclose
    obtain ⟨u, us, rfl, hu, hpass⟩ := hr.begins hright
    have hnot : u.kind ≠ .keyword .NOT := fun hk => by
      rw [hk] at hu
      cases hu
    have hcast : op = .typecast → u.keyword?.any beginsType = false := fun h => by
      rw [← Bool.not_eq_true]
      intro hb
      have := htype h hb
      simp [hr.isType_eq_false] at this
    have hrest : rest.length ≤ mid.length :=
      Nat.le_trans (Nat.le_of_lt (hr.length_lt hright)) hlength
    exact operators_of_extend hq ha (extend_binary hop hnot hcast hread) hrest
  | @cast left type hl hle ht ih =>
    obtain ⟨mid, mid', hleft, hop, hright, -⟩ := hs
    obtain ⟨t, mid, rfl, hsays, hnil⟩ := forms_cons.1 hop
    obtain rfl := forms_nil.1 hnil
    have hkind : t.kind = .typecast := hsays.1
    have hq : Precedence.ofKind? t.kind = some .typecast := by rw [hkind]; rfl
    have hfront : Precedence.ofFront? (t :: mid) = some .typecast := hq
    have habove : left.Above floor := Expression.above_of_lt_strength (Nat.lt_of_lt_of_le ha hle)
    rw [ih habove (hl.stopsAt_of_le_strength hle (Nat.le_refl _) hfront) hleft (hl.length_lt hleft)]
    have hwritten : type.Written mid rest := hright
    exact operators_of_extend hq ha (extend_cast hkind ht hwritten hstop.2)
      hwritten.passes.length_le
  | @call callee args hc hcallee hargs ih iha =>
    obtain ⟨t, mid, u, hx, ht, hlist, hu⟩ := hs
    have hq : Precedence.ofKind? t.kind = some .call := by rw [ht]; rfl
    rw [ih (Expression.above_of_lt_strength ha) (hc.stopsAt_of_isCallee hcallee) hx
      (hc.length_lt hx)]
    have hitems : ∀ e ∈ args, Complete e := by
      intro e he ts rest hs hquiet
      have hn := hargs e he
      exact hclosed (iha e he hn.above_lowest (hn.stopsAt_of_isQuiet hquiet) hs (hn.length_lt hs))
        (hquiet.closes .lowest)
    have hread : extend callee .call t.kind mid = .ok (.call callee args, rest) := by
      rw [extend.eq_def]
      simp only [ht, arguments_of_written hargs hitems hlist hu]
    have hcall : floor < .call := Nat.lt_of_lt_of_le ha (Precedence.le_call callee.strength)
    have hpass := hlist.passes fun e he => (hargs e he).passes
    exact operators_of_extend hq hcall hread (Nat.le_of_succ_le hpass.length_le)

/-- **An expression that nests is read from the tokens that write it**, if nothing that follows
belongs to it and no operator above the floor does. -/
theorem expression_of_written {e : Expression} (he : e.Nested) (ha : e.Above floor)
    (hs : e.Written ts rest) (hstop : e.StopsAt rest) (hc : Closes floor rest) :
    expression floor ts = .ok (e, rest) :=
  (expression_eq_operators he ha hstop hs).trans (operators_of_closes hc)

theorem complete_of_nested {e : Expression} (he : e.Nested) : Complete e :=
  fun _ _ hs hquiet => expression_of_written he he.above_lowest hs (he.stopsAt_of_isQuiet hquiet)
    (hquiet.closes .lowest)

/-- **An expression is read back** from its symbols if it nests as its operators bind. -/
theorem Reads.expression {e : Expression} (he : e.Nested) :
    Reads Token.Kind.isQuiet (expression .lowest) e.symbols e :=
  fun _ _ hs => complete_of_nested he (he.written_of_spells hs)

end Rule

end SchemaPatch
