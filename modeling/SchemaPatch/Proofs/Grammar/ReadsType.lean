import SchemaPatch.Grammar.DataType
import SchemaPatch.Proofs.Grammar.Reads
import SchemaPatch.Proofs.Grammar.Written

/-!
# Reading types

The rule for types reads a type that is named by a keyword exactly where the tokens write it, and
stops where nothing more belongs to it (`Rule.dataType_eq_ok`). So a type that was read has a
spelling, and a type that has a spelling is read back from its symbols (`Rule.Reads.dataType`).
-/

namespace SchemaPatch

variable {p : Token.Kind → Bool} {S : Symbol → Prop} {ts mid rest : List Token}

theorem Token.says_symbol (t : Token) : t.Says t.symbol := ⟨rfl, fun _ => rfl⟩

theorem Spells.forms {xs : List Symbol} (h : Spells xs ts rest) : Forms xs ts rest := by
  obtain ⟨used, rfl, rfl⟩ := h
  exact ⟨used, rfl, List.forall₂_map_right_iff.2 (List.forall₂_same.2 fun t _ => t.says_symbol)⟩

theorem Token.says_iff_of_ne {t : Token} {x : Symbol} (hx : x.kind ≠ .number) :
    t.Says x ↔ t.kind = x.kind := by
  simp [Says, hx]

/-! ### What follows a type -/

namespace DataType

/-- A kind of token that does not go on with a type. -/
def admits (t : DataType) (kind : Token.Kind) : Bool :=
  !(t.isOpen && kind == .leftParen) && !(t == .character false none && kind == .keyword .VARYING)

theorem stopsAt_of_follows {t : DataType} (h : Follows t.admits ts) : t.StopsAt ts := by
  cases ts with
  | nil => exact ⟨fun _ => by simp, fun _ => by simp⟩
  | cons u us =>
    rw [follows_cons, admits] at h
    constructor
    · intro ho hb
      rw [begins_cons] at hb
      simp [ho, hb] at h
    · intro ht hb
      rw [begins_cons] at hb
      simp [ht, hb] at h

theorem admits_of_isQuiet (t : DataType) (kind : Token.Kind) (h : kind.isQuiet) :
    t.admits kind := by
  cases kind with
  | keyword k => cases k <;> simp_all [admits, Token.Kind.isQuiet]
  | _ => simp_all [admits, Token.Kind.isQuiet]

theorem stopsAt_of_isQuiet (t : DataType) (h : Follows Token.Kind.isQuiet ts) : t.StopsAt ts :=
  stopsAt_of_follows fun u hu => t.admits_of_isQuiet u.kind (h u hu)

end DataType

namespace Rule

variable {α β : Type}

/-! ### Steps of a rule -/

theorem bind_of_eq_ok {r : Rule α} {f : α → Rule β} {a : α} (h : r ts = .ok (a, mid)) :
    (r >>= f) ts = f a mid := by
  show Except.bind (r ts) (fun p => f p.1 p.2) = _
  rw [h]
  rfl

theorem accept_bind {kind : Token.Kind} {f : Bool → Rule β} {t : Token} (ht : t.kind = kind) :
    (accept kind >>= f) (t :: ts) = f true ts :=
  bind_of_eq_ok (accept_eq_ok.2 (.inl ⟨rfl, t, rfl, ht⟩))

theorem not_accept_bind {kind : Token.Kind} {f : Bool → Rule β} (h : ¬ Begins kind ts) :
    (accept kind >>= f) ts = f false ts :=
  bind_of_eq_ok (accept_eq_ok.2 (.inr ⟨rfl, rfl, h⟩))

theorem expect_bind {kind : Token.Kind} {f : Unit → Rule β} {t : Token} (ht : t.kind = kind) :
    (expect kind >>= f) (t :: ts) = f () ts :=
  bind_of_eq_ok (expect_eq_ok.2 ⟨t, rfl, ht⟩)

theorem expectWords_eq_ok {ks : List Keyword} {u : Unit} :
    expectWords ks ts = .ok (u, rest) ↔ Forms (ks.map Symbol.word) ts rest := by
  induction ks generalizing ts with
  | nil => simp [expectWords, pure_eq_ok]
  | cons k ks ih =>
    simp only [expectWords, expectWord, bind_eq_ok, expect_eq_ok, ih, List.map_cons, forms_cons,
      Token.says_iff_of_ne (show (Symbol.word k).kind ≠ .number by simp), Symbol.word_kind]
    grind

/-! ### Modifiers -/

theorem bounded_eq_ok {what : String} {cause : Fault.Cause} {greatest n : Nat} :
    bounded what cause greatest ts = .ok (n, rest) ↔ n ≤ greatest ∧
      ∃ t, ts = t :: rest ∧ t.kind = .number ∧ Decimal.toNat? t.literal = some n := by
  cases ts with
  | nil => simp [bounded]
  | cons t ts => grind [bounded]

theorem modifier_eq_ok {n : UInt32} :
    modifier ts = .ok (n, rest) ↔ Forms [DataType.modifierSymbol n] ts rest := by
  have hvalue : ∀ m : Nat, m ≤ 0xffffffff → (UInt32.ofNat m = n ↔ m = n.toNat) := by
    intro m hm
    constructor
    · rintro rfl
      exact (UInt32.toNat_ofNat_of_lt' (Nat.lt_succ_of_le hm)).symm
    · rintro rfl
      exact UInt32.ofNat_toNat
  have hn : n.toNat ≤ 0xffffffff := Nat.le_of_lt_succ n.toNat_lt
  simp only [modifier, bind_eq_ok, bounded_eq_ok, pure_eq_ok, forms_cons, forms_nil, Token.Says,
    DataType.modifierSymbol, Symbol.number, Decimal.toNat?_ofNat]
  constructor
  · rintro ⟨m, mid, ⟨hm, t, rfl, hk, ht⟩, hmn, rfl⟩
    obtain rfl := (hvalue m hm).1 hmn
    exact ⟨t, mid, rfl, ⟨hk, fun _ => ht⟩, rfl⟩
  · rintro ⟨t, mid, rfl, ⟨hk, ht⟩, rfl⟩
    exact ⟨n.toNat, mid, ⟨hn, t, rfl, hk, ht trivial⟩, UInt32.ofNat_toNat, rfl⟩

/-- A modifier and the parenthesis that closes behind it. -/
theorem modifier_expect_eq_ok {f : UInt32 → α} {a : α} :
    (do let n ← modifier; expect .rightParen; return f n : Rule α) ts = .ok (a, rest) ↔
      ∃ n, a = f n ∧ Forms [DataType.modifierSymbol n, ⟨.rightParen, ")"⟩] ts rest := by
  constructor
  · intro h
    obtain ⟨n, mid, hn, h₁⟩ := bind_eq_ok.1 h
    obtain ⟨_, mid', hclose, h₂⟩ := bind_eq_ok.1 h₁
    obtain ⟨t, rfl, ht⟩ := expect_eq_ok.1 hclose
    obtain ⟨rfl, rfl⟩ := pure_eq_ok.1 h₂
    refine ⟨n, rfl, forms_cons_split.2 ⟨_, modifier_eq_ok.1 hn, ?_⟩⟩
    simp [Token.says_iff_of_ne, ht]
  · rintro ⟨n, rfl, hforms⟩
    obtain ⟨mid, hn, hclose⟩ := forms_cons_split.1 hforms
    obtain ⟨t, _, rfl, ht, hnil⟩ := forms_cons.1 hclose
    obtain rfl := forms_nil.1 hnil
    rw [bind_of_eq_ok (modifier_eq_ok.2 hn), expect_bind ht.1]
    rfl

/-! ### What follows the first keyword of a type -/

theorem characterType_eq_ok {type : DataType} : characterType ts = .ok (type, rest) ↔
    (∃ varying length, type = .character varying length) ∧
      Forms type.symbols.tail ts rest ∧ type.StopsAt rest := by
  constructor
  · intro h
    obtain ⟨varying, mid, hv, h₁⟩ := bind_eq_ok.1 h
    obtain ⟨opens, mid', ho, h₂⟩ := bind_eq_ok.1 h₁
    have hvarying : Forms (if varying then [⟨.keyword .VARYING, "varying"⟩] else []) ts mid ∧
        (varying = false → ¬ Begins (.keyword .VARYING) mid) := by
      rcases accept_eq_ok.1 hv with ⟨rfl, u, rfl, hu⟩ | ⟨rfl, rfl, hnot⟩
      · simp [Token.says_iff_of_ne, hu]
      · simp [hnot]
    rcases accept_eq_ok.1 ho with ⟨rfl, u, rfl, hu⟩ | ⟨rfl, rfl, hno⟩
    · obtain ⟨n, rfl, hn⟩ := modifier_expect_eq_ok.1 h₂
      refine ⟨⟨_, _, rfl⟩, forms_append.2 ⟨_, hvarying.1, ?_⟩, by simp [DataType.isOpen], by simp⟩
      exact forms_cons.2 ⟨u, mid', rfl, (Token.says_iff_of_ne (by simp)).2 hu, hn⟩
    · obtain ⟨rfl, rfl⟩ := pure_eq_ok.1 h₂
      refine ⟨⟨_, _, rfl⟩, forms_append.2 ⟨_, hvarying.1, by simp⟩, fun _ => hno, ?_⟩
      rintro ⟨⟩
      exact hvarying.2 rfl
  · rintro ⟨⟨varying, length, rfl⟩, hforms, hparen, hvarying⟩
    unfold characterType acceptWord
    cases varying <;> cases length
    case false.none =>
      obtain rfl := forms_nil.1 hforms
      rw [not_accept_bind (hvarying rfl), not_accept_bind (hparen rfl)]
      rfl
    case false.some n =>
      obtain ⟨u, mid, rfl, hu, hn⟩ := forms_cons.1 hforms
      rw [not_accept_bind (by simp [hu.1]), accept_bind hu.1]
      exact modifier_expect_eq_ok.2 ⟨n, rfl, hn⟩
    case true.none =>
      obtain ⟨u, mid, rfl, hu, hnil⟩ := forms_cons.1 hforms
      obtain rfl := forms_nil.1 hnil
      rw [accept_bind hu.1, not_accept_bind (hparen rfl)]
      rfl
    case true.some n =>
      obtain ⟨u, _, rfl, hu, hlength⟩ := forms_cons.1 hforms
      obtain ⟨v, mid, rfl, hv, hn⟩ := forms_cons.1 hlength
      rw [accept_bind hu.1, accept_bind hv.1]
      exact modifier_expect_eq_ok.2 ⟨n, rfl, hn⟩

theorem numericType_eq_ok {type : DataType} : numericType ts = .ok (type, rest) ↔
    (∃ precision scale, type = .numeric precision scale) ∧ type.IsReadable ∧
      Forms type.symbols.tail ts rest ∧ type.StopsAt rest := by
  constructor
  · intro h
    obtain ⟨opens, mid, ho, h₁⟩ := bind_eq_ok.1 h
    rcases accept_eq_ok.1 ho with ⟨rfl, u, rfl, hu⟩ | ⟨rfl, rfl, hno⟩
    · obtain ⟨precision, mid₁, hp, h₂⟩ := bind_eq_ok.1 h₁
      obtain ⟨more, mid₂, hm, h₃⟩ := bind_eq_ok.1 h₂
      obtain ⟨v, _, rfl, hv, hnil⟩ := forms_cons.1 (modifier_eq_ok.1 hp)
      obtain rfl := forms_nil.1 hnil
      have hfirst : u.Says ⟨.leftParen, "("⟩ := (Token.says_iff_of_ne (by simp)).2 hu
      rcases accept_eq_ok.1 hm with ⟨rfl, w, rfl, hw⟩ | ⟨rfl, rfl, -⟩
      · obtain ⟨scale, rfl, hs⟩ := modifier_expect_eq_ok.1 h₃
        refine ⟨⟨_, _, rfl⟩, trivial, ?_, by simp [DataType.isOpen], by simp⟩
        exact forms_cons.2 ⟨u, _, rfl, hfirst, forms_cons.2 ⟨v, _, rfl, hv,
          forms_cons.2 ⟨w, mid₂, rfl, (Token.says_iff_of_ne (by simp)).2 hw, hs⟩⟩⟩
      · obtain ⟨_, mid₃, hc, h₄⟩ := bind_eq_ok.1 h₃
        obtain ⟨w, rfl, hw⟩ := expect_eq_ok.1 hc
        obtain ⟨rfl, rfl⟩ := pure_eq_ok.1 h₄
        refine ⟨⟨_, _, rfl⟩, trivial, ?_, by simp [DataType.isOpen], by simp⟩
        exact forms_cons.2 ⟨u, _, rfl, hfirst, forms_cons.2 ⟨v, _, rfl, hv,
          forms_cons.2 ⟨w, _, rfl, (Token.says_iff_of_ne (by simp)).2 hw, forms_nil.2 rfl⟩⟩⟩
    · obtain ⟨rfl, rfl⟩ := pure_eq_ok.1 h₁
      exact ⟨⟨_, _, rfl⟩, trivial, by simp [DataType.symbols], fun _ => hno, by simp⟩
  · rintro ⟨⟨precision, scale, rfl⟩, hreadable, hforms, hparen, -⟩
    unfold numericType
    cases precision <;> cases scale
    case none.some => exact absurd hreadable id
    case none.none =>
      obtain rfl := forms_nil.1 hforms
      rw [not_accept_bind (hparen rfl)]
      rfl
    case some.none n =>
      obtain ⟨u, _, rfl, hu, hinside⟩ := forms_cons.1 hforms
      obtain ⟨mid, hn, hclose⟩ := forms_cons_split.1 hinside
      obtain ⟨v, _, rfl, hv, hnil⟩ := forms_cons.1 hclose
      obtain rfl := forms_nil.1 hnil
      rw [accept_bind hu.1, if_pos rfl, bind_of_eq_ok (modifier_eq_ok.2 hn),
        not_accept_bind (by simp [hv.1]), if_neg (by simp), expect_bind hv.1]
      rfl
    case some.some n m =>
      obtain ⟨u, _, rfl, hu, hinside⟩ := forms_cons.1 hforms
      obtain ⟨mid, hn, hmore⟩ := forms_cons_split.1 hinside
      obtain ⟨v, _, rfl, hv, hm⟩ := forms_cons.1 hmore
      rw [accept_bind hu.1, if_pos rfl, bind_of_eq_ok (modifier_eq_ok.2 hn), accept_bind hv.1]
      exact modifier_expect_eq_ok.2 ⟨m, rfl, hm⟩

theorem timestampType_eq_ok {type : DataType} : timestampType ts = .ok (type, rest) ↔
    (∃ withTimeZone, type = .timestamp withTimeZone ∧ Forms type.symbols.tail ts rest) ∨
      (type = .timestamp false ∧ ts = rest ∧ ¬ Begins (.keyword .WITH) rest ∧
        ¬ Begins (.keyword .WITHOUT) rest) := by
  have hzone : ∀ {withTimeZone : Bool} {mid : List Token},
      (do expectWords [.TIME, .ZONE]; return .timestamp withTimeZone : Rule DataType) mid =
        .ok (type, rest) ↔ type = .timestamp withTimeZone ∧
          Forms [⟨.keyword .TIME, "time"⟩, ⟨.keyword .ZONE, "zone"⟩] mid rest := by
    intro withTimeZone mid
    simp only [bind_eq_ok, expectWords_eq_ok, pure_eq_ok, List.map_cons, List.map_nil, forms_cons,
      forms_nil, Token.Says, Symbol.word]
    grind
  constructor
  · intro h
    obtain ⟨offset, mid, ho, h₁⟩ := bind_eq_ok.1 h
    rcases accept_eq_ok.1 ho with ⟨rfl, u, rfl, hu⟩ | ⟨rfl, rfl, hwith⟩
    · obtain ⟨rfl, hforms⟩ := hzone.1 h₁
      exact .inl ⟨true, rfl, forms_cons.2 ⟨u, mid, rfl, (Token.says_iff_of_ne (by simp)).2 hu, hforms⟩⟩
    · obtain ⟨none', mid', hn, h₂⟩ := bind_eq_ok.1 h₁
      rcases accept_eq_ok.1 hn with ⟨rfl, u, rfl, hu⟩ | ⟨rfl, rfl, hwithout⟩
      · obtain ⟨rfl, hforms⟩ := hzone.1 h₂
        exact .inl ⟨false, rfl,
          forms_cons.2 ⟨u, mid', rfl, (Token.says_iff_of_ne (by simp)).2 hu, hforms⟩⟩
      · obtain ⟨rfl, rfl⟩ := pure_eq_ok.1 h₂
        exact .inr ⟨rfl, rfl, hwith, hwithout⟩
  · unfold timestampType acceptWord
    rintro (⟨_ | _, rfl, hforms⟩ | ⟨rfl, rfl, hwith, hwithout⟩)
    · obtain ⟨u, mid, rfl, hu, hmore⟩ := forms_cons.1 hforms
      rw [not_accept_bind (by simp [hu.1]), if_neg (by simp), accept_bind hu.1]
      exact hzone.2 ⟨rfl, hmore⟩
    · obtain ⟨u, mid, rfl, hu, hmore⟩ := forms_cons.1 hforms
      rw [accept_bind hu.1]
      exact hzone.2 ⟨rfl, hmore⟩
    · rw [not_accept_bind hwith, if_neg (by simp), not_accept_bind hwithout]
      rfl

/-! ### Types -/

theorem simpleType?_spec {k : Keyword} {type : DataType} (h : simpleType? k = some type) :
    type.keyword = k ∧ type.symbols.tail = [] ∧ type.isOpen = false ∧ type.IsReadable := by
  cases k <;> cases h <;> exact ⟨rfl, rfl, rfl, trivial⟩

/-- A type that is named by a keyword is read where the tokens write it and nothing more belongs to
it. -/
theorem dataType_of_written {type : DataType} (hreadable : type.IsReadable)
    (h : type.Written ts rest) (hstops : type.StopsAt rest) : dataType ts = .ok (type, rest) := by
  cases ts with
  | nil => exact absurd h DataType.not_written_nil
  | cons u us =>
    obtain ⟨hu, hforms⟩ := DataType.written_cons.1 h
    cases type with
    | numeric precision scale =>
      have htail := hforms.resolve_right (by simp)
      simp only [dataType, hu, DataType.keyword]
      exact numericType_eq_ok.2 ⟨⟨_, _, rfl⟩, hreadable, htail, hstops⟩
    | character varying length =>
      have htail := hforms.resolve_right (by simp)
      simp only [dataType, hu, DataType.keyword]
      exact characterType_eq_ok.2 ⟨⟨_, _, rfl⟩, htail, hstops⟩
    | timestamp withTimeZone =>
      simp only [dataType, hu, DataType.keyword]
      exact timestampType_eq_ok.2 (hforms.imp_left fun htail => ⟨_, rfl, htail⟩)
    | _ =>
      obtain rfl := forms_nil.1 (hforms.resolve_right (by simp))
      simp [dataType, hu, DataType.keyword, simpleType?]

/-- **The rule for types reads a type that is named by a keyword exactly where the tokens write it and
nothing more belongs to it.** -/
theorem dataType_eq_ok {k : Keyword} (hk : Begins (.keyword k) ts) {type : DataType} :
    dataType ts = .ok (type, rest) ↔
      type.IsReadable ∧ type.Written ts rest ∧ type.StopsAt rest := by
  refine ⟨fun h => ?_, fun ⟨hr, hwritten, hstops⟩ => dataType_of_written hr hwritten hstops⟩
  cases ts with
  | nil => simp at hk
  | cons u us =>
    rw [begins_cons] at hk
    rw [dataType] at h
    simp only [DataType.written_cons, hk]
    split at h
    · next hu =>
      obtain ⟨⟨_, _, rfl⟩, htail, hstops⟩ := characterType_eq_ok.1 h
      exact ⟨trivial, ⟨hk.symm.trans hu, .inl htail⟩, hstops⟩
    · next hu =>
      obtain ⟨⟨_, _, rfl⟩, hreadable, htail, hstops⟩ := numericType_eq_ok.1 h
      exact ⟨hreadable, ⟨hk.symm.trans hu, .inl htail⟩, hstops⟩
    · next hu =>
      have hclosed : ∀ {b}, (DataType.timestamp b).StopsAt rest := by
        simp [DataType.StopsAt, DataType.isOpen]
      rcases timestampType_eq_ok.1 h with ⟨_, rfl, htail⟩ | ⟨rfl, hrest⟩
      · exact ⟨trivial, ⟨hk.symm.trans hu, .inl htail⟩, hclosed⟩
      · exact ⟨trivial, ⟨hk.symm.trans hu, .inr ⟨rfl, hrest⟩⟩, hclosed⟩
    · next k' _ _ _ hu =>
      split at h
      · next type' htype =>
        cases h
        obtain ⟨hkeyword, htail, hopen, hreadable⟩ := simpleType?_spec htype
        refine ⟨hreadable, ⟨?_, .inl (htail ▸ forms_nil.2 rfl)⟩, by simp [hopen], ?_⟩
        · rw [hkeyword, ← hu, hk]
        · rintro rfl
          cases hopen
      · cases h
    · next hu =>
      rw [hk] at hu
      cases hu
    · cases h

/-! ### All types -/

theorem Sound.bounded (what : String) (cause : Fault.Cause) (greatest : Nat) :
    Sound S (bounded what cause greatest) fun n => n ≤ greatest := by
  intro ts n rest h _
  obtain ⟨hn, t, rfl, hk, -⟩ := bounded_eq_ok.1 h
  exact ⟨hn, .one (by simp [hk])⟩

/-- A choice between a type and another choice. -/
theorem eq_or_of_ite {c : Prop} [Decidable c] {a t : DataType} {o : Option DataType}
    (h : (if c then some a else o) = some t) : t = a ∨ o = some t := by
  split at h
  · exact .inl (Option.some.inj h).symm
  · exact .inr h

theorem quotedType_isReadable {literal : String} {t : DataType}
    (h : quotedType? literal = some t) : t.IsReadable := by
  unfold quotedType? at h
  iterate 11
    obtain rfl | h := eq_or_of_ite h
    · exact trivial
  cases h

/-- A type that was read has a spelling. -/
theorem Sound.dataType : Sound S dataType DataType.IsReadable := by
  intro ts type rest h _
  by_cases hk : ∃ k, Begins (.keyword k) ts
  · obtain ⟨k, hk⟩ := hk
    obtain ⟨hreadable, hwritten, -⟩ := (dataType_eq_ok hk).1 h
    exact ⟨hreadable, hwritten.passes⟩
  · cases ts with
    | nil => cases h
    | cons u us =>
      rw [Rule.dataType] at h
      split at h
      case h_5 hu =>
        split at h
        · next htype =>
          cases h
          exact ⟨quotedType_isReadable htype, .one (by simp [hu])⟩
        · cases h
      case h_6 => cases h
      all_goals simp_all

/-- **A type is read back** from its symbols if it has a spelling. -/
theorem Reads.dataType {t : DataType} (ht : t.IsReadable) :
    Reads t.admits dataType t.symbols t :=
  fun _ _ hs hr => dataType_of_written ht (.inl hs.forms) (DataType.stopsAt_of_follows hr)

end Rule

end SchemaPatch
