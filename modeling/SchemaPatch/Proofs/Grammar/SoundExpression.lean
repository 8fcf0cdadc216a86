import SchemaPatch.Grammar.Expression
import SchemaPatch.Proofs.Grammar.ReadsType

/-!
# Reading expressions is sound

An expression that was read is written in the tokens that were taken, it nests as its operators bind,
and no operator above the floor follows it (`Rule.expression_sound`). The functions that read
expressions call each other, so what each of them guarantees is proved for all of them at once, by
the tokens that are left.
-/

namespace SchemaPatch.Rule

/-- What reading guarantees of an expression that stands in the tokens from `ts` on up to `rest`. -/
structure Settled (e : Expression) (ts rest : List Token) : Prop where
  nested : e.Nested
  written : e.Written ts rest
  stops : e.StopsAt rest

variable {ts mid mid' rest : List Token}

/-- An operator of an expression that was read, with an operand on its right that was. -/
theorem Settled.binary {left right : Expression} {op : BinaryOp} (hl : Settled left ts mid)
    (hfront : Precedence.ofFront? mid = some op.precedence) (hop : Forms op.symbols mid mid')
    (hr : Settled right mid' rest) (ha : right.Above op.precedence) (hc : Closes op.precedence rest)
    (htype : op = .typecast → ¬ (mid'.head?.bind Token.keyword?).any beginsType) :
    Settled (.binary left op right) ts rest := by
  have hle : op.precedence ≤ .typecast := by cases op <;> decide
  exact ⟨.binary hl.nested (hl.nested.le_strength hl.stops hfront hle) hr.nested ha,
    ⟨mid, mid', hl.written, hop, hr.written, fun hcast hbegins => absurd hbegins (htype hcast)⟩,
    .inr hc, hr.stops⟩

theorem begins_of_any {ts : List Token} (h : (ts.head?.bind Token.keyword?).any beginsType) :
    ∃ k, Begins (.keyword k) ts := by
  cases ts with
  | nil => cases h
  | cons t ts =>
    cases hk : t.kind <;> simp [Token.keyword?, Token.Kind.keyword?, hk] at h ⊢

/-- A token of the kind of a symbol that is no number is a form of it. -/
theorem forms_one {x : Symbol} {t : Token} (hx : x.kind ≠ .number) (ht : t.kind = x.kind) :
    Forms [x] (t :: ts) ts :=
  forms_cons.2 ⟨t, ts, rfl, (Token.says_iff_of_ne hx).2 ht, forms_nil.2 rfl⟩

theorem forms_of_ofKind? {t : Token} {op : BinaryOp} (h : BinaryOp.ofKind? t.kind = some op) :
    Forms op.symbols (t :: ts) ts := by
  unfold BinaryOp.ofKind? at h
  split at h <;> cases h <;> exact forms_one (by simp) ‹_›

mutual

/-- An expression that was read stands in its tokens and nests, its operators bind more strongly than
the floor, and none that follows does. -/
theorem expression_sound {floor : Precedence} {ts rest : List Token} {e : Expression}
    (h : expression floor ts = .ok (e, rest)) :
    Settled e ts rest ∧ e.Above floor ∧ Closes floor rest := by
  rw [expression] at h
  split at h
  · cases h
  · next left mid ho =>
    obtain ⟨hl, ha⟩ := operand_sound ho
    have hlt := hl.nested.length_lt hl.written
    rw [if_pos hlt] at h
    exact operators_sound h hl (ha floor)
termination_by 6 * ts.length + 2

/-- An operand is no operator's work, so it is above every floor. -/
theorem operand_sound {ts rest : List Token} {e : Expression} (h : operand ts = .ok (e, rest)) :
    Settled e ts rest ∧ ∀ floor, e.Above floor := by
  cases ts with
  | nil => rw [operand] at h; cases h
  | cons t ts =>
    rw [operand] at h
    split at h
    · next hk =>
      cases h
      exact ⟨⟨.string _, ⟨t, rfl, by rw [Token.symbol, hk]⟩, trivial⟩, fun _ => trivial⟩
    · next hk =>
      cases h
      exact ⟨⟨.number _, ⟨t, rfl, by rw [Token.symbol, hk]⟩, trivial⟩, fun _ => trivial⟩
    · next hk =>
      cases h
      exact ⟨⟨.boolean _, ⟨t, rfl, hk⟩, trivial⟩, fun _ => trivial⟩
    · next hk =>
      cases h
      exact ⟨⟨.boolean _, ⟨t, rfl, hk⟩, trivial⟩, fun _ => trivial⟩
    · next hk =>
      cases h
      exact ⟨⟨.null, ⟨t, rfl, hk⟩, trivial⟩, fun _ => trivial⟩
    · next hk =>
      split at h
      · cases h
      · next inner mid hi =>
        obtain ⟨hi', -, -⟩ := expression_sound hi
        split at h
        · cases h
        · next rest' hx =>
          cases h
          obtain ⟨u, rfl, hu⟩ := expect_eq_ok.1 hx
          exact ⟨⟨.group hi'.nested, ⟨t, ts, u, rfl, hk, hi'.written, hu⟩, trivial⟩,
            fun _ => trivial⟩
    · split at h
      · next op hop =>
        split at h
        · cases h
        · next inner mid hi =>
          cases h
          obtain ⟨hi', ha, hc⟩ := expression_sound hi
          have hk : t.kind = op.symbol.kind := by
            unfold UnaryOp.ofKind? at hop
            split at hop <;> cases hop <;> assumption
          exact ⟨⟨.unary hi'.nested ha, ⟨t, ts, rfl, hk, hi'.written⟩, hc.not_begins_leftParen,
            hi'.stops⟩, fun _ => trivial⟩
      · split at h
        · next hid =>
          cases h
          exact ⟨⟨.identifier _, ⟨t, rfl, hid, rfl⟩, trivial⟩, fun _ => trivial⟩
        · cases h
termination_by 6 * ts.length + 1

/-- Adding operators to an expression keeps what reading guarantees. -/
theorem operators_sound {floor : Precedence} {left : Expression} {front ts rest : List Token}
    {e : Expression} (h : operators floor left ts = .ok (e, rest)) (hl : Settled left front ts)
    (ha : left.Above floor) : Settled e front rest ∧ e.Above floor ∧ Closes floor rest := by
  cases ts with
  | nil => rw [operators] at h; cases h; exact ⟨hl, ha, closes_nil _⟩
  | cons t ts =>
    rw [operators] at h
    split at h
    · next hk =>
      cases h
      exact ⟨hl, ha, closes_cons.2 (by simp [hk])⟩
    · next p hk =>
      split at h
      · next hle =>
        cases h
        exact ⟨hl, ha, closes_cons.2 (by simp [hk, hle])⟩
      · next hle =>
        split at h
        · cases h
        · next left' mid hx =>
          obtain ⟨hl', ha', hlength⟩ := extend_sound hx hk hl
          have hlt : mid.length < (t :: ts).length := Nat.lt_succ_of_le hlength
          rw [if_pos hlt] at h
          exact operators_sound h hl' (ha' floor (Precedence.not_le.1 hle) ha)
termination_by 6 * ts.length

/-- Adding one operator to an expression keeps what reading guarantees. -/
theorem extend_sound {left : Expression} {p : Precedence} {t : Token} {front ts rest : List Token}
    {e : Expression} (h : extend left p t.kind ts = .ok (e, rest))
    (hp : Precedence.ofKind? t.kind = some p) (hl : Settled left front (t :: ts)) :
    Settled e front rest ∧ (∀ floor, floor < p → left.Above floor → e.Above floor) ∧
      rest.length ≤ ts.length := by
  have hbinary : ∀ (op : BinaryOp) {right : Expression} {us : List Token}, us.length ≤ ts.length →
      p = op.precedence → Forms op.symbols (t :: ts) us →
      (op = .typecast → ¬ (us.head?.bind Token.keyword?).any beginsType) →
      expression p us = .ok (right, rest) →
      Settled (.binary left op right) front rest ∧
        (∀ floor, floor < p → left.Above floor → (Expression.binary left op right).Above floor) ∧
        rest.length ≤ ts.length := by
    rintro op right us hlength rfl hop htype hr
    obtain ⟨hr', har, hcr⟩ := expression_sound hr
    have hlt := hr'.nested.length_lt hr'.written
    exact ⟨hl.binary hp hop hr' har hcr htype, fun floor hf _ => hf, by omega⟩
  unfold extend at h
  split at h
  · next hk =>
    split at h
    · cases h
    · next args rest' hargs =>
      cases h
      obtain ⟨hnested, u, hlist, hu⟩ := arguments_sound hargs
      have hc := hl.nested.isCallee_of_stopsAt hl.stops ((begins_cons ..).2 hk)
      have hpass := hlist.passes fun e he => (hnested e he).passes
      refine ⟨⟨.call hl.nested hc hnested, ⟨t, ts, u, hl.written, hk, hlist, hu⟩, trivial⟩,
        fun floor hf ha => ?_, ?_⟩
      · have hcall : p = .call := by simpa [hk, eq_comm] using hp
        exact ha.lt_strength hc (hcall ▸ hf)
      · exact Nat.le_of_succ_le hpass.length_le
  · next hk =>
    have his : p = .is := by simpa [hk, eq_comm] using hp
    have hword : Forms [Symbol.word .IS] (t :: ts) ts := forms_one (by simp) hk
    split at h
    · next u us =>
      split at h
      · next hnot =>
        split at h
        · cases h
        · next right rest' hr =>
          cases h
          have hwords : Forms (BinaryOp.symbols .isNot) (t :: u :: us) us :=
            forms_cons_split.2 ⟨_, hword, forms_one (by simp) hnot⟩
          exact hbinary .isNot (Nat.le_succ _) his hwords (by simp) hr
      · split at h
        · cases h
        · next right rest' hr =>
          cases h
          exact hbinary .is (Nat.le_refl _) his hword (by simp) hr
    · cases h
  · next hk =>
    have hcast : p = .typecast := by simpa [hk, eq_comm] using hp
    have hop : Forms (BinaryOp.symbols .typecast) (t :: ts) ts := forms_one (by simp) hk
    split at h
    · next hb =>
      split at h
      · cases h
      · next type rest' ht =>
        cases h
        obtain ⟨k, hbegins⟩ := begins_of_any hb
        obtain ⟨hr, hwritten, hstops⟩ := (dataType_eq_ok hbegins).1 ht
        subst hcast
        have hle := hl.nested.le_strength hl.stops hp (Nat.le_refl _)
        exact ⟨⟨.cast hl.nested hle hr, ⟨_, _, hl.written, hop, hwritten, fun _ _ => rfl⟩,
          .inl rfl, hstops⟩, fun floor hf _ => hf, hwritten.passes.length_le⟩
    · next hb =>
      split at h
      · cases h
      · next right rest' hr =>
        cases h
        exact hbinary .typecast (Nat.le_refl _) hcast hop (fun _ => hb) hr
  · next hcast _ =>
    split at h
    · next op hop =>
      split at h
      · cases h
      · next right rest' hr =>
        cases h
        have hprec : p = op.precedence :=
          Option.some.inj (hp.symm.trans (BinaryOp.precedence_of_ofKind? hop))
        refine hbinary op (Nat.le_refl _) hprec (forms_of_ofKind? hop) ?_ hr
        rintro rfl
        exact absurd hop (BinaryOp.ofKind?_ne_typecast _)
    · cases h
termination_by 6 * ts.length + 5

/-- The arguments of a call are expressions that nest, in the tokens up to the closing parenthesis. -/
theorem arguments_sound {ts rest : List Token} {args : List Expression}
    (h : arguments ts = .ok (args, rest)) :
    (∀ e ∈ args, e.Nested) ∧
      ∃ u, Expression.WrittenList args ts (u :: rest) ∧ u.kind = .rightParen := by
  cases ts with
  | nil => rw [arguments] at h; cases h
  | cons t ts =>
    rw [arguments] at h
    split at h
    · next hk =>
      cases h
      exact ⟨by simp, t, rfl, hk⟩
    · exact (argumentList_sound h).2
termination_by 6 * ts.length + 4

theorem argumentList_sound {ts rest : List Token} {args : List Expression}
    (h : argumentList ts = .ok (args, rest)) : args ≠ [] ∧ (∀ e ∈ args, e.Nested) ∧
      ∃ u, Expression.WrittenList args ts (u :: rest) ∧ u.kind = .rightParen := by
  rw [argumentList] at h
  split at h
  · cases h
  · next arg mid he =>
    obtain ⟨ha, -, -⟩ := expression_sound he
    have hlt := ha.nested.length_lt ha.written
    split at h
    · next t mid' =>
      split at h
      · next hc =>
        split at h
        · cases h
        · next args' rest' hrec =>
          cases h
          obtain ⟨hne, has, u, hlist, hu⟩ := argumentList_sound hrec
          exact ⟨by simp, List.forall_mem_cons.2 ⟨ha.nested, has⟩, u,
            (Expression.writtenList_cons hne).2 ⟨t, mid', ha.written, hc.1, hlist⟩, hu⟩
      · split at h
        · cases h
        · next rest' hx =>
          cases h
          obtain ⟨u, hmid, hu⟩ := expect_eq_ok.1 hx
          cases hmid
          exact ⟨by simp, List.forall_mem_singleton.2 ha.nested, t, ha.written, hu⟩
    · cases h
termination_by 6 * ts.length + 3

end

end SchemaPatch.Rule
