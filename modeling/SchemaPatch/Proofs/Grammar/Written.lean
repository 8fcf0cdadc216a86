import Mathlib.Data.List.Forall2
import SchemaPatch.Proofs.Grammar.Sound
import SchemaPatch.Proofs.Sql.Symbols
import SchemaPatch.Proofs.Sql.Readable

/-!
# Expressions in tokens

The tokens in which a type or an expression is written, in order, up to those that follow it
(`DataType.Written`, `Expression.Written`). Keywords may be in upper or lower case, names between
quotes or not, modifiers of types with leading zeros or without, and the time zone that a timestamp
does not have may be left out. All else is as it stands in the expression.
-/

namespace SchemaPatch

/-! ### Forms of symbols -/

/-- A token says what a symbol says: it is of the same kind, and if it is a number, of the same
value. -/
def Token.Says (t : Token) (x : Symbol) : Prop :=
  t.kind = x.kind ∧ (x.kind = .number → Decimal.toNat? t.literal = Decimal.toNat? x.literal)

/-- The tokens up to `rest` say what the symbols say. -/
def Forms (xs : List Symbol) (ts rest : List Token) : Prop :=
  ∃ used, ts = used ++ rest ∧ List.Forall₂ Token.Says used xs

section Forms

variable {xs ys : List Symbol} {ts rest : List Token}

@[simp] theorem forms_nil : Forms [] ts rest ↔ ts = rest := by
  simp [Forms]

@[simp] theorem forms_cons {x : Symbol} :
    Forms (x :: xs) ts rest ↔ ∃ t mid, ts = t :: mid ∧ t.Says x ∧ Forms xs mid rest := by
  constructor
  · rintro ⟨used, rfl, h⟩
    obtain ⟨t, used, ht, hused, rfl⟩ := List.forall₂_cons_right_iff.1 h
    exact ⟨t, used ++ rest, rfl, ht, used, rfl, hused⟩
  · rintro ⟨t, mid, rfl, ht, used, rfl, hused⟩
    exact ⟨t :: used, rfl, .cons ht hused⟩

theorem forms_append :
    Forms (xs ++ ys) ts rest ↔ ∃ mid, Forms xs ts mid ∧ Forms ys mid rest := by
  induction xs generalizing ts with
  | nil => simp
  | cons x xs ih =>
    simp only [List.cons_append, forms_cons, ih]
    grind

/-- A form of the first symbol, and then the others. -/
theorem forms_cons_split {x : Symbol} :
    Forms (x :: xs) ts rest ↔ ∃ mid, Forms [x] ts mid ∧ Forms xs mid rest := by
  rw [← List.singleton_append, forms_append]

/-- More tokens at the end change nothing. -/
theorem Forms.append (h : Forms xs ts rest) (more : List Token) :
    Forms xs (ts ++ more) (rest ++ more) := by
  obtain ⟨used, rfl, hused⟩ := h
  exact ⟨used, List.append_assoc .., hused⟩

/-- Of symbols none of which is unterminated all forms are passed over. -/
theorem Forms.passes (h : Forms xs ts rest) (hxs : ∀ x ∈ xs, x.kind ≠ .unterminated) :
    Passes ts rest := by
  obtain ⟨used, rfl, hused⟩ := h
  refine ⟨used, rfl, ?_⟩
  induction hused with
  | nil => simp
  | cons ht _ ih =>
    obtain ⟨hx, hxs⟩ := List.forall_mem_cons.1 hxs
    exact List.forall_mem_cons.2 ⟨ht.1 ▸ hx, ih hxs⟩

end Forms

/-! ### Types -/

namespace DataType

/-- The tokens up to `rest` write a type. -/
def Written (t : DataType) (ts rest : List Token) : Prop :=
  Forms t.symbols ts rest ∨
    (t = .timestamp false ∧ Forms [⟨.keyword .TIMESTAMP, "timestamp"⟩] ts rest ∧
      ¬ Begins (.keyword .WITH) rest ∧ ¬ Begins (.keyword .WITHOUT) rest)

theorem kind_ne_unterminated (t : DataType) : ∀ x ∈ t.symbols, x.kind ≠ .unterminated := by
  cases t with
  | numeric precision scale =>
    cases precision <;> cases scale <;> simp [symbols, Symbol.parenthesized, modifierSymbol]
  | character varying length =>
    cases varying <;> cases length <;> simp [symbols, Symbol.parenthesized, modifierSymbol]
  | timestamp withTimeZone => cases withTimeZone <;> simp [symbols]
  | _ => simp [symbols]

/-- The keyword that names a type. -/
def keyword : DataType → Keyword
  | smallint => .SMALLINT
  | integer => .INTEGER
  | bigint => .BIGINT
  | serial => .SERIAL
  | bigserial => .BIGSERIAL
  | numeric _ _ => .NUMERIC
  | character _ _ => .CHARACTER
  | text => .TEXT
  | boolean => .BOOLEAN
  | bytea => .BYTEA
  | jsonb => .JSONB
  | tsvector => .TSVECTOR
  | uuid => .UUID
  | date => .DATE
  | timestamp _ => .TIMESTAMP

theorem beginsType_keyword (t : DataType) : Rule.beginsType t.keyword := by
  cases t <;> rfl

theorem exists_symbols_eq (t : DataType) :
    ∃ w, t.symbols = ⟨.keyword t.keyword, w⟩ :: t.symbols.tail := by
  cases t with
  | numeric precision scale => cases precision <;> cases scale <;> exact ⟨_, rfl⟩
  | timestamp withTimeZone => cases withTimeZone <;> exact ⟨_, rfl⟩
  | _ => exact ⟨_, rfl⟩

variable {t : DataType} {ts rest : List Token}

/-- The first token that writes a type is the keyword that names it. -/
theorem written_cons {u : Token} : t.Written (u :: ts) rest ↔ u.kind = .keyword t.keyword ∧
    (Forms t.symbols.tail ts rest ∨ (t = .timestamp false ∧ ts = rest ∧
      ¬ Begins (.keyword .WITH) rest ∧ ¬ Begins (.keyword .WITHOUT) rest)) := by
  have hforms : ∀ {k : Keyword} {w : String} {xs : List Symbol},
      Forms (⟨.keyword k, w⟩ :: xs) (u :: ts) rest ↔ u.kind = .keyword k ∧ Forms xs ts rest := by
    intro k w xs
    rw [forms_cons]
    constructor
    · rintro ⟨_, _, ⟨⟩, hu, hmore⟩
      exact ⟨hu.1, hmore⟩
    · rintro ⟨hu, hmore⟩
      exact ⟨u, ts, rfl, ⟨hu, by simp⟩, hmore⟩
  obtain ⟨w, hw⟩ := t.exists_symbols_eq
  rw [Written, hw, hforms, hforms, forms_nil, List.tail_cons, and_or_left]
  refine or_congr_right ?_
  constructor
  · rintro ⟨rfl, ⟨hu, hrest⟩, hnot⟩
    exact ⟨hu, rfl, hrest, hnot⟩
  · rintro ⟨hu, rfl, hrest, hnot⟩
    exact ⟨rfl, ⟨hu, hrest⟩, hnot⟩

theorem not_written_nil : ¬ t.Written [] rest := by
  obtain ⟨w, hw⟩ := t.exists_symbols_eq
  rw [Written, hw]
  simp

theorem Written.begins (h : t.Written ts rest) :
    (ts.head?.bind Token.keyword?).any Rule.beginsType := by
  cases ts with
  | nil => exact absurd h not_written_nil
  | cons u ts =>
    rw [List.head?_cons, Option.bind_some, Token.keyword?, (written_cons.1 h).1]
    exact t.beginsType_keyword

/-- A comma and whatever is behind it do not change a type that is written before them. -/
theorem Written.append (h : t.Written ts rest) {more : List Token} (hmore : Begins .comma more) :
    t.Written (ts ++ more) (rest ++ more) := by
  have hword : ∀ {k : Keyword}, ¬ Begins (.keyword k) rest → ¬ Begins (.keyword k) (rest ++ more) := by
    intro k hk
    cases rest with
    | nil =>
      cases more with
      | nil => simp
      | cons u us =>
        rw [begins_cons] at hmore
        simp [hmore]
    | cons u us => simpa using hk
  rcases h with h | ⟨ht, h, hwith, hwithout⟩
  · exact .inl (h.append more)
  · exact .inr ⟨ht, h.append more, hword hwith, hword hwithout⟩

theorem Written.passes (h : t.Written ts rest) : Passes ts rest := by
  rcases h with h | ⟨-, h, -⟩
  · exact h.passes t.kind_ne_unterminated
  · exact h.passes (by simp)

end DataType

/-! ### Expressions -/

theorem BinaryOp.kind_ne_unterminated (op : BinaryOp) :
    ∀ x ∈ op.symbols, x.kind ≠ .unterminated := by
  cases op <;> simp [BinaryOp.symbols]

namespace Expression

mutual

/-- The tokens up to `rest` write an expression. -/
def Written : Expression → List Token → List Token → Prop
  | identifier name, ts, rest =>
    ∃ t, ts = t :: rest ∧ t.isIdentifier ∧ Identifier.ofLiteral t.literal = name
  | string literal, ts, rest => ∃ t, ts = t :: rest ∧ t.symbol = ⟨.string, literal⟩
  | number literal, ts, rest => ∃ t, ts = t :: rest ∧ t.symbol = ⟨.number, literal⟩
  | boolean value, ts, rest =>
    ∃ t, ts = t :: rest ∧ t.kind = .keyword (if value then .TRUE else .FALSE)
  | null, ts, rest => ∃ t, ts = t :: rest ∧ t.kind = .keyword .NULL
  | group inner, ts, rest => ∃ t mid u, ts = t :: mid ∧ t.kind = .leftParen ∧
      inner.Written mid (u :: rest) ∧ u.kind = .rightParen
  | unary op operand, ts, rest => ∃ t mid, ts = t :: mid ∧ t.kind = op.symbol.kind ∧
      operand.Written mid rest
  -- A keyword of a type behind the cast operator is always taken for the type.
  | binary left op right, ts, rest => ∃ mid mid', left.Written ts mid ∧
      Forms op.symbols mid mid' ∧ right.Written mid' rest ∧
        (op = .typecast → (mid'.head?.bind Token.keyword?).any Rule.beginsType → right.isType)
  | call callee args, ts, rest => ∃ t mid u, callee.Written ts (t :: mid) ∧ t.kind = .leftParen ∧
      WrittenList args mid (u :: rest) ∧ u.kind = .rightParen
  | type dataType, ts, rest => dataType.Written ts rest

/-- The tokens up to `rest` write expressions with a comma between them. -/
def WrittenList : List Expression → List Token → List Token → Prop
  | [], ts, rest => ts = rest
  | [e], ts, rest => e.Written ts rest
  | e :: f :: es, ts, rest => ∃ t mid, e.Written ts (t :: mid) ∧ t.kind = .comma ∧
      WrittenList (f :: es) mid rest

end

variable {e : Expression} {ts rest : List Token}

theorem writtenList_cons {es : List Expression} (hes : es ≠ []) : WrittenList (e :: es) ts rest ↔
    ∃ t mid, e.Written ts (t :: mid) ∧ t.kind = .comma ∧ WrittenList es mid rest := by
  cases es with
  | nil => exact absurd rfl hes
  | cons f es => rw [WrittenList]

/-- Tokens that write arguments are passed over if those that write each of them are. -/
theorem WrittenList.passes {es : List Expression} (h : WrittenList es ts rest)
    (hes : ∀ e ∈ es, ∀ {ts rest}, e.Written ts rest → Passes ts rest) : Passes ts rest := by
  induction es generalizing ts with
  | nil =>
    rw [WrittenList] at h
    rw [h]
    exact .refl rest
  | cons e es ih =>
    obtain ⟨he, hes⟩ := List.forall_mem_cons.1 hes
    cases es with
    | nil =>
      rw [WrittenList] at h
      exact he h
    | cons f es =>
      rw [WrittenList] at h
      obtain ⟨t, mid, hfirst, ht, hmore⟩ := h
      exact (he hfirst).trans (.cons (by simp [ht]) (ih hmore hes))

/-- A kind of token with which an expression can begin: no closing parenthesis, no negation, nothing
unterminated. -/
def beginsOperand (kind : Token.Kind) : Bool :=
  kind != .rightParen && kind != .keyword .NOT && kind != .unterminated

theorem beginsOperand_of_isIdentifier {t : Token} (h : t.isIdentifier) : beginsOperand t.kind := by
  unfold Token.isIdentifier at h
  split at h
  · next hk => rw [hk]; rfl
  · next k hk =>
    rw [hk]
    cases k <;> first | rfl | cases h
  · cases h

theorem passes_cons_of_beginsOperand {t : Token} (ht : beginsOperand t.kind) (h : Passes ts rest) :
    Passes (t :: ts) rest :=
  .cons (fun hk => by rw [hk] at ht; cases ht) h

/-- The first token of an expression begins an operand, and the others are passed over. -/
theorem Nested.begins (he : e.Nested) (h : e.Written ts rest) :
    ∃ t mid, ts = t :: mid ∧ beginsOperand t.kind ∧ Passes mid rest := by
  induction he generalizing ts rest with
  | identifier name =>
    obtain ⟨t, rfl, ht, -⟩ := h
    exact ⟨t, rest, rfl, beginsOperand_of_isIdentifier ht, .refl rest⟩
  | string literal | number literal =>
    obtain ⟨t, rfl, ht⟩ := h
    exact ⟨t, rest, rfl, by rw [← Token.symbol_kind, ht]; rfl, .refl rest⟩
  | boolean value =>
    obtain ⟨t, rfl, ht⟩ := h
    exact ⟨t, rest, rfl, by rw [ht]; cases value <;> rfl, .refl rest⟩
  | null =>
    obtain ⟨t, rfl, ht⟩ := h
    exact ⟨t, rest, rfl, by rw [ht]; rfl, .refl rest⟩
  | group _ ih =>
    obtain ⟨t, mid, u, rfl, ht, hinner, hu⟩ := h
    obtain ⟨t', mid', rfl, ht', hpass⟩ := ih hinner
    exact ⟨t, _, rfl, by rw [ht]; rfl,
      (passes_cons_of_beginsOperand ht' hpass).trans (.one (by simp [hu]))⟩
  | @unary op _ _ _ ih =>
    obtain ⟨t, mid, rfl, ht, hoperand⟩ := h
    obtain ⟨t', mid', rfl, ht', hpass⟩ := ih hoperand
    exact ⟨t, _, rfl, by rw [ht]; cases op <;> rfl, passes_cons_of_beginsOperand ht' hpass⟩
  | @binary _ _ op _ _ _ _ ihl ihr =>
    obtain ⟨mid, mid', hleft, hop, hright, -⟩ := h
    obtain ⟨t, behind, rfl, ht, hpass⟩ := ihl hleft
    obtain ⟨t', behind', rfl, ht', hpass'⟩ := ihr hright
    exact ⟨t, behind, rfl, ht, (hpass.trans (hop.passes op.kind_ne_unterminated)).trans
      (passes_cons_of_beginsOperand ht' hpass')⟩
  | cast _ _ _ ih =>
    obtain ⟨mid, mid', hleft, hop, hright, -⟩ := h
    obtain ⟨t, behind, rfl, ht, hpass⟩ := ih hleft
    exact ⟨t, behind, rfl, ht, (hpass.trans (hop.passes BinaryOp.typecast.kind_ne_unterminated)).trans
      (DataType.Written.passes hright)⟩
  | call _ _ _ ih iha =>
    obtain ⟨t, mid, u, hcallee, ht, hargs, hu⟩ := h
    obtain ⟨t', behind, rfl, ht', hpass⟩ := ih hcallee
    have hpass' := hargs.passes fun e he ts rest h => by
      obtain ⟨t, mid, rfl, ht, hpass⟩ := iha e he h
      exact passes_cons_of_beginsOperand ht hpass
    exact ⟨t', behind, rfl, ht',
      hpass.trans (.cons (by simp [ht]) (hpass'.trans (.one (by simp [hu]))))⟩

/-- The tokens that write an expression are passed over. -/
theorem Nested.passes (he : e.Nested) (h : e.Written ts rest) : Passes ts rest := by
  obtain ⟨t, mid, rfl, ht, hpass⟩ := he.begins h
  exact passes_cons_of_beginsOperand ht hpass

theorem Nested.length_lt (he : e.Nested) (h : e.Written ts rest) : rest.length < ts.length := by
  obtain ⟨t, mid, rfl, -, hpass⟩ := he.begins h
  exact Nat.lt_succ_of_le hpass.length_le

theorem WrittenList.append {es : List Expression} {more : List Token} (h : WrittenList es ts rest)
    (hes : ∀ e ∈ es, ∀ {ts rest}, e.Written ts rest → e.Written (ts ++ more) (rest ++ more)) :
    WrittenList es (ts ++ more) (rest ++ more) := by
  induction es generalizing ts with
  | nil =>
    rw [WrittenList] at h ⊢
    rw [h]
  | cons e es ih =>
    obtain ⟨he, hes⟩ := List.forall_mem_cons.1 hes
    cases es with
    | nil => exact he h
    | cons f es =>
      obtain ⟨t, mid, hfirst, ht, hmore⟩ := h
      exact ⟨t, mid ++ more, he hfirst, ht, ih hmore hes⟩

/-- A comma and whatever is behind it do not change an expression that is written before them. -/
theorem Nested.written_append {more : List Token} (he : e.Nested) (h : e.Written ts rest)
    (hmore : Begins .comma more) : e.Written (ts ++ more) (rest ++ more) := by
  induction he generalizing ts rest with
  | identifier | string | number | boolean | null =>
    obtain ⟨t, rfl, ht⟩ := h
    exact ⟨t, rfl, ht⟩
  | group _ ih =>
    obtain ⟨t, mid, u, rfl, ht, hinner, hu⟩ := h
    exact ⟨t, mid ++ more, u, rfl, ht, ih hinner, hu⟩
  | unary _ _ ih =>
    obtain ⟨t, mid, rfl, ht, hoperand⟩ := h
    exact ⟨t, mid ++ more, rfl, ht, ih hoperand⟩
  | binary _ _ hr _ ihl ihr =>
    obtain ⟨mid, mid', hleft, hop, hright, htype⟩ := h
    refine ⟨mid ++ more, mid' ++ more, ihl hleft, hop.append more, ihr hright, fun hcast hb => ?_⟩
    obtain ⟨t, us, rfl, -, -⟩ := hr.begins hright
    exact htype hcast hb
  | cast _ _ _ ih =>
    obtain ⟨mid, mid', hleft, hop, hright, -⟩ := h
    exact ⟨mid ++ more, mid' ++ more, ih hleft, hop.append more,
      DataType.Written.append hright hmore, fun _ _ => rfl⟩
  | call _ _ _ ih iha =>
    obtain ⟨t, mid, u, hcallee, ht, hlist, hu⟩ := h
    exact ⟨t, mid ++ more, u, ih hcallee, ht, hlist.append iha, hu⟩

/-- Each of some arguments is written somewhere in their tokens. -/
theorem WrittenList.exists_written {es : List Expression} (h : WrittenList es ts rest)
    (hes : ∀ e ∈ es, e.Nested) : ∀ e ∈ es, ∃ mid rest', Passes ts mid ∧ e.Written mid rest' := by
  induction es generalizing ts with
  | nil => simp
  | cons e es ih =>
    obtain ⟨he, hes⟩ := List.forall_mem_cons.1 hes
    cases es with
    | nil =>
      rw [WrittenList] at h
      exact List.forall_mem_singleton.2 ⟨ts, rest, .refl ts, h⟩
    | cons f es =>
      rw [WrittenList] at h
      obtain ⟨t, mid, hfirst, ht, hmore⟩ := h
      refine List.forall_mem_cons.2 ⟨⟨ts, _, .refl ts, hfirst⟩, fun a ha => ?_⟩
      obtain ⟨mid', rest', hpass, hwritten⟩ := ih hmore hes a ha
      exact ⟨mid', rest', (he.passes hfirst).trans (.cons (by simp [ht]) hpass), hwritten⟩

/-- The strings and numbers of an expression are tokens in which it is written. -/
theorem Nested.spelled {S : Symbol → Prop} (he : e.Nested) (h : e.Written ts rest)
    (hts : Tokens S ts) : e.Spelled S := by
  induction he generalizing ts rest with
  | identifier name => exact .identifier name
  | string literal =>
    obtain ⟨t, rfl, ht⟩ := h
    exact .string (ht ▸ hts.head)
  | number literal =>
    obtain ⟨t, rfl, ht⟩ := h
    exact .number (ht ▸ hts.head)
  | boolean value => exact .boolean value
  | null => exact .null
  | group _ ih =>
    obtain ⟨t, mid, u, rfl, -, hinner, -⟩ := h
    exact .group (ih hinner hts.tail)
  | unary _ _ ih =>
    obtain ⟨t, mid, rfl, -, hoperand⟩ := h
    exact .unary (ih hoperand hts.tail)
  | @binary _ _ op hl _ _ _ ihl ihr =>
    obtain ⟨mid, mid', hleft, hop, hright, -⟩ := h
    have hpass := (hl.passes hleft).trans (hop.passes op.kind_ne_unterminated)
    exact .binary (ihl hleft hts) (ihr hright (hts.passes hpass))
  | @cast _ type _ _ _ ih =>
    obtain ⟨mid, mid', hleft, -, -, -⟩ := h
    exact .binary (ih hleft hts) (.type type)
  | call hc _ hargs ih iha =>
    obtain ⟨t, mid, u, hcallee, ht, hlist, -⟩ := h
    have hpass : Passes ts mid := (hc.passes hcallee).trans (.one (by simp [ht]))
    refine .call (ih hcallee hts) fun a ha => ?_
    obtain ⟨mid', rest', hpass', hwritten⟩ := hlist.exists_written hargs a ha
    exact iha a ha hwritten (hts.passes (hpass.trans hpass'))

end Expression

end SchemaPatch
