import SchemaPatch.Proofs.Grammar.ReadsExpression
import SchemaPatch.Proofs.Grammar.SoundStatement

/-!
# Reading back statements that create

The symbols of tables, indexes and sequences are read as what they spell, except that a condition
without a text leaves nothing to read (`ColumnDefinition.withoutNulls`).
-/

namespace SchemaPatch

namespace Rule

variable {p q : Token.Kind → Bool} {S : Symbol → Prop}

theorem Reads.objectName (n : ObjectName) :
    Reads (Token.Kind.isNot .dot) objectName n.symbols n := by
  obtain ⟨schema, name⟩ := n
  cases schema with
  | none => exact .cons (.identifier name) (.not_accept_seq (.pure _) fun _ h => h)
  | some schema =>
    exact .cons (.identifier schema) (.accept_seq ⟨.dot, "."⟩ (.cons (.identifier name) (.pure _)))

theorem Reads.createSchema (name : Identifier) :
    Reads p createSchema [.name name] (.createSchema name) :=
  .cons (.identifier name) (.pure _)

/-! ### Tables -/

theorem Reads.columnConstraint {k : ColumnConstraint} (hk : k.Readable S) (hn : k ≠ .null) :
    Reads Token.Kind.isQuiet Rule.columnConstraint k.symbols (some k) := by
  cases k with
  | notNull => exact .accept_seq (.word .NOT) (.expect_seq (.word .NULL) (.pure _))
  | null => exact absurd rfl hn
  | default value =>
    refine .not_accept_seq (.not_accept_seq (.accept_seq (.word .DEFAULT) ?_) rfl) rfl
    exact (Reads.expression hk.nested).map fun value => some (ColumnConstraint.default value)

/-- Where a column ends there is no condition. -/
theorem Reads.no_columnConstraint : Reads Token.Kind.closes Rule.columnConstraint [] none := by
  have hclose : ∀ k, Fronts Token.Kind.closes [] (Token.Kind.isNot (.keyword k)) := by
    intro k kind hk
    cases kind <;> first | rfl | cases hk
  exact .not_accept_seq (.not_accept_seq (.not_accept_seq (.pure _) (hclose .DEFAULT))
    (hclose .NULL)) (hclose .NOT)

theorem flatMap_symbols_filter (ks : List ColumnConstraint) :
    (ks.filter (· ≠ .null)).flatMap ColumnConstraint.symbols =
      ks.flatMap ColumnConstraint.symbols := by
  induction ks with
  | nil => rfl
  | cons k ks ih =>
    rw [List.flatMap_cons, ← ih]
    cases k <;> simp [ColumnConstraint.symbols]

theorem Reads.columnDefinition {c : ColumnDefinition} (hc : c.Readable S) :
    Reads Token.Kind.closes Rule.columnDefinition c.symbols c.withoutNulls := by
  have hread : ∀ k ∈ c.constraints.filter (· ≠ .null),
      Reads Token.Kind.isQuiet Rule.columnConstraint k.symbols (some k) := by
    intro k hk
    obtain ⟨hk, hn⟩ := List.mem_filter.1 hk
    exact .columnConstraint (hc.constraints k hk) (by simpa using hn)
  have hfront : ∀ k ∈ c.constraints.filter (· ≠ .null),
      ∃ x xs, k.symbols = x :: xs ∧ x.kind.isQuiet := by
    intro k hk
    cases k with
    | null => simp at hk
    | notNull | default => exact ⟨_, _, rfl, rfl⟩
  have hconstraints : Reads Token.Kind.closes (Rule.many Rule.columnConstraint)
      (c.constraints.flatMap ColumnConstraint.symbols) (c.constraints.filter (· ≠ .null)) := by
    rw [← flatMap_symbols_filter]
    exact .many hread hfront Token.Kind.isQuiet_of_closes .no_columnConstraint
  have htype : Fronts Token.Kind.closes (c.constraints.flatMap ColumnConstraint.symbols)
      c.type.admits := by
    rw [← flatMap_symbols_filter]
    exact (Fronts.flatMap hfront Token.Kind.isQuiet_of_closes).mono c.type.admits_of_isQuiet
  exact .cons (.identifier c.name) ((Reads.dataType hc.type).bind
    (hconstraints.map fun ks => ColumnDefinition.mk c.name c.type ks) htype)

theorem symbols_withoutNulls (c : ColumnDefinition) : c.withoutNulls.symbols = c.symbols := by
  rw [ColumnDefinition.symbols, ColumnDefinition.symbols, ← flatMap_symbols_filter c.constraints]
  rfl

/-- Columns between parentheses. -/
theorem Reads.columnList {cs : List ColumnDefinition} (hcs : ∀ c ∈ cs, c.Readable S) :
    Reads p Rule.columnList (Symbol.parenthesized (Symbol.listed (cs.map ColumnDefinition.symbols)))
      (cs.map ColumnDefinition.withoutNulls) := by
  have hitems : ∀ d ∈ cs.map ColumnDefinition.withoutNulls,
      Reads Token.Kind.closes Rule.columnDefinition d.symbols d := by
    intro d hd
    obtain ⟨c, hc, rfl⟩ := List.mem_map.1 hd
    rw [symbols_withoutNulls]
    exact .columnDefinition (hcs c hc)
  have hsymbols : (cs.map ColumnDefinition.withoutNulls).map ColumnDefinition.symbols =
      cs.map ColumnDefinition.symbols := by
    simp [symbols_withoutNulls]
  refine .expect_seq ⟨.leftParen, "("⟩ ?_
  cases cs with
  | nil => exact .accept_seq ⟨.rightParen, ")"⟩ (.pure _)
  | cons c cs =>
    have hlist : Reads (· == .rightParen) (Rule.commaList Rule.columnDefinition)
        (Symbol.listed (((c :: cs).map ColumnDefinition.withoutNulls).map ColumnDefinition.symbols))
        ((c :: cs).map ColumnDefinition.withoutNulls) :=
      .commaList (by simp) hitems rfl (by simp [Token.Kind.closes])
    rw [hsymbols] at hlist
    refine .not_accept_seq ?_ ?_
    · exact hlist.bind (.expect_seq ⟨.rightParen, ")"⟩ (.pure _)) rfl
    · cases cs <;> rfl

theorem Reads.createTable {s : CreateTable} (hs : s.Readable S) :
    Reads p Rule.createTable (s.symbols.drop 2)
      (.createTable { s with columns := s.columns.map .withoutNulls }) :=
  (Reads.objectName s.table).bind
    ((Reads.columnList hs).map fun cs => Statement.createTable ⟨s.table, cs⟩) rfl

/-! ### Indexes -/

theorem Reads.ifNotExists (b : Bool) : Reads (Token.Kind.isNot (.keyword .IF)) Rule.ifNotExists
    (if b then [.word .IF, .word .NOT, .word .EXISTS] else []) b := by
  cases b with
  | false => exact .not_accept_seq (.pure _) fun _ h => h
  | true => exact .accept_seq (.word .IF) (.words_seq [.NOT, .EXISTS] (.pure _))

/-- The name of an index may be left out in front of `ON`. -/
theorem Reads.indexName_seq {β : Type} (name : Option Identifier) {f : Option Identifier → Rule β}
    {ys : List Symbol} {b : β} (hf : Reads q (f name) (.word .ON :: ys) b) :
    Reads q (Rule.indexName >>= f) (name.toList.map .name ++ .word .ON :: ys) b := by
  intro ts rest hs hr
  cases name with
  | none =>
    obtain ⟨t, mid, rfl, ht, -⟩ := spells_cons.1 hs
    have hkind : t.kind = .keyword .ON := congrArg Symbol.kind ht
    refine bind_eq_ok.2 ⟨none, t :: mid, ?_, hf hs hr⟩
    refine bind_eq_ok.2 ⟨true, t :: mid, ?_, rfl⟩
    simp [check, hkind]
  | some name =>
    obtain ⟨t, mid, rfl, ht, hmid⟩ := spells_cons.1 hs
    have hkind : t.kind = .identifier := congrArg Symbol.kind ht
    refine bind_eq_ok.2 ⟨some name, mid, ?_, hf hmid hr⟩
    refine bind_eq_ok.2 ⟨false, t :: mid, by simp [check, hkind], ?_⟩
    have hread : Reads Token.Kind.any (Rule.identifier >>= fun name => Pure.pure (some name))
        [.name name] (some name) := (Reads.identifier name).map some
    exact hread (spells_cons.2 ⟨t, mid, rfl, ht, spells_nil.2 rfl⟩) fun _ _ => rfl

theorem Reads.indexMethod (method : Option Identifier) :
    Reads (Token.Kind.isNot (.keyword .USING)) Rule.indexMethod
      (method.toList.flatMap fun method => [.word .USING, .name method]) method := by
  cases method with
  | none => exact .not_accept_seq (.pure _) fun _ h => h
  | some method => exact .accept_seq (.word .USING) (.cons (.identifier method) (.pure _))

theorem Reads.indexKey {e : Expression} (he : e.Nested) (hkey : IndexTarget.IsKey e) :
    Reads Token.Kind.isQuiet Rule.indexKey e.symbols e := by
  intro ts rest hs hr
  cases hkey with
  | column name =>
    obtain ⟨t, mid, rfl, ht, hnil⟩ := spells_cons.1 hs
    obtain ⟨hkind, hliteral⟩ := Symbol.mk.inj ht
    rw [spells_nil.1 hnil]
    cases rest with
    | nil => simp [Rule.indexKey, hkind, hliteral, Token.isIdentifier, Identifier.ofLiteral_sql]
    | cons u us =>
      have hparen : u.kind ≠ .leftParen := by
        intro hk
        simp [hk, Token.Kind.isQuiet] at hr
      simp [Rule.indexKey, hkind, hliteral, Token.isIdentifier, Identifier.ofLiteral_sql, hparen]
  | call name args =>
    cases he with
    | call _ _ hargs =>
      obtain ⟨t, mid, rfl, ht, hmid⟩ := spells_cons.1 hs
      obtain ⟨u, mid, rfl, hu, hspells⟩ := spells_cons.1 hmid
      obtain ⟨hkind, hliteral⟩ := Symbol.mk.inj ht
      have hparen : u.kind = .leftParen := congrArg Symbol.kind hu
      obtain ⟨mid', hlist, hclose⟩ := spells_append.1 hspells
      obtain ⟨v, _, rfl, hv, hnil⟩ := spells_cons.1 hclose
      obtain rfl := spells_nil.1 hnil
      have hwritten := Expression.writtenList_of_spells hlist fun e he => (hargs e he).written_of_spells
      have hread := arguments_of_written hargs (fun e he => complete_of_nested (hargs e he)) hwritten
        (congrArg Symbol.kind hv)
      simp [Rule.indexKey, hkind, hliteral, Token.isIdentifier, Identifier.ofLiteral_sql, hparen,
        hread]
  | group inner =>
    cases he with
    | group hinner =>
      obtain ⟨t, mid, rfl, ht, hmid⟩ := spells_cons.1 hs
      obtain ⟨mid', hx, hclose⟩ := spells_append.1 hmid
      obtain ⟨u, us, rfl, hu, hnil⟩ := spells_cons.1 hclose
      rw [spells_nil.1 hnil] at hx
      have hkind : t.kind = .leftParen := congrArg Symbol.kind ht
      have hkind' : u.kind = .rightParen := congrArg Symbol.kind hu
      have hread := Reads.expression hinner hx (by rw [follows_cons, hkind']; rfl)
      simp only [Rule.indexKey, hkind, if_true]
      exact operand_group hkind hkind' hread

theorem Reads.direction (descending : Bool) : Reads Token.Kind.closes Rule.direction
    (if descending then [.word .DESC] else []) descending := by
  have hclose : ∀ k, Fronts Token.Kind.closes [] (Token.Kind.isNot (.keyword k)) := by
    intro k kind hk
    cases kind <;> first | rfl | cases hk
  cases descending with
  | true => exact .accept_seq (.word .DESC) (.pure _)
  | false =>
    exact .not_accept_seq (.not_accept_seq (.pure _) (hclose .ASC)) (hclose .DESC)

theorem Reads.indexTarget {t : IndexTarget} (ht : t.Readable S) :
    Reads Token.Kind.closes Rule.indexTarget t.symbols t := by
  refine (Reads.indexKey ht.readable.nested ht.key).bind
    ((Reads.direction t.descending).map fun b => IndexTarget.mk t.key b) ?_
  cases t.descending with
  | true => rfl
  | false => exact Token.Kind.isQuiet_of_closes

theorem Reads.createIndex {s : CreateIndex} (hs : s.Readable S) :
    Reads p Rule.createIndex s.symbols.tail (.createIndex s) := by
  obtain ⟨unique, concurrently, ifNotExists, name, table, method, targets⟩ := s
  have htargets : Reads (· == .rightParen) (Rule.commaList Rule.indexTarget)
      (Symbol.listed (targets.map IndexTarget.symbols)) targets :=
    .commaList hs.ne_nil (fun t ht => .indexTarget (hs.targets t ht)) rfl
      (by simp [Token.Kind.closes])
  simp only [CreateIndex.symbols, List.tail_cons, List.append_assoc]
  refine (Reads.acceptWord unique .UNIQUE).bind (.expect_seq (.word .INDEX) ?_) rfl
  refine (Reads.acceptWord concurrently .CONCURRENTLY).bind ?_ ?_
  · refine (Reads.ifNotExists ifNotExists).bind ?_ ?_
    · refine .indexName_seq name (.expect_seq (.word .ON) ?_)
      refine (Reads.objectName table).bind ((Reads.indexMethod method).bind ?_ rfl) ?_
      · exact .expect_seq ⟨.leftParen, "("⟩
          (htargets.bind (.expect_seq ⟨.rightParen, ")"⟩ (.pure _)) rfl)
      · cases method <;> rfl
    · cases name <;> rfl
  · cases ifNotExists <;> cases name <;> rfl

end Rule

/-! ### Sequences -/

/-- The symbols of an option of a sequence. -/
def Rule.SequenceOption.symbols : Rule.SequenceOption → List Symbol
  | type t => .word .AS :: t.symbols
  | start n => .word .START :: .word .WITH :: Symbol.integer n
  | increment n => .word .INCREMENT :: .word .BY :: Symbol.integer n
  | noMinvalue => [.word .NO, .word .MINVALUE]
  | noMaxvalue => [.word .NO, .word .MAXVALUE]
  | cache n => .word .CACHE :: Symbol.integer n

/-- The options of a sequence, in the order they are written. -/
def CreateSequence.options (s : CreateSequence) : List Rule.SequenceOption :=
  s.type.toList.map .type ++ s.start.toList.map .start ++ s.increment.toList.map .increment ++
    (if s.noMinvalue then [.noMinvalue] else []) ++
    (if s.noMaxvalue then [.noMaxvalue] else []) ++ s.cache.toList.map .cache

theorem CreateSequence.symbols_eq (s : CreateSequence) : s.symbols =
    .word .CREATE :: .word .SEQUENCE ::
      (s.name.symbols ++ s.options.flatMap Rule.SequenceOption.symbols) := by
  obtain ⟨name, type, start, increment, noMinvalue, noMaxvalue, cache⟩ := s
  cases noMinvalue <;> cases noMaxvalue <;>
    simp [symbols, options, List.flatMap_map, Rule.SequenceOption.symbols]

theorem CreateSequence.foldl_options (s : CreateSequence) :
    s.options.foldl Rule.SequenceOption.addTo (.plain s.name) = s := by
  obtain ⟨name, type, start, increment, noMinvalue, noMaxvalue, cache⟩ := s
  cases type <;> cases start <;> cases increment <;> cases noMinvalue <;> cases noMaxvalue <;>
    cases cache <;> rfl

theorem CreateSequence.Readable.options {s : CreateSequence} (hs : s.Readable) :
    ∀ o ∈ s.options, o.Readable := by
  intro o ho
  simp only [CreateSequence.options, List.mem_append, List.mem_map, Option.mem_toList] at ho
  rcases ho with ((((⟨t, ht, rfl⟩ | ⟨n, hn, rfl⟩) | ⟨n, hn, rfl⟩) | ho) | ho) | ⟨n, hn, rfl⟩
  · exact hs.type t ht
  · exact hs.start n hn
  · exact hs.increment n hn
  · split at ho <;> simp at ho
    rw [ho]
    exact trivial
  · split at ho <;> simp at ho
    rw [ho]
    exact trivial
  · exact hs.cache n hn

namespace Rule

theorem Reads.bounded {what : String} {cause : Fault.Cause} {greatest n : Nat} (h : n ≤ greatest) :
    Reads p (bounded what cause greatest) [.number n] n := by
  intro ts rest hs _
  obtain ⟨t, mid, rfl, ht, hmid⟩ := spells_cons.1 hs
  obtain ⟨hkind, hliteral⟩ := Symbol.mk.inj ht
  rw [spells_nil.1 hmid]
  exact bounded_eq_ok.2 ⟨h, t, rfl, hkind, by rw [hliteral, Decimal.toNat?_ofNat]⟩

theorem Reads.integer {n : Int64} (hn : IsReadableInteger n) :
    Reads p integer (Symbol.integer n) n := by
  have hbound : n.toInt.natAbs ≤ 0x7fffffffffffffff := by
    have hlt := n.toInt_lt
    have hge := n.le_toInt
    have hne : n.toInt ≠ -2 ^ 63 := fun heq => hn (Int64.toInt_inj.1 (by rw [heq]; rfl))
    omega
  have hback : ∀ m : Int, m = n.toInt → Int64.ofInt m = n := by
    rintro m rfl
    exact Int64.ofInt_toInt n
  unfold Symbol.integer
  split
  · next hneg =>
    have hread : Reads p Rule.integer [⟨.minus, "-"⟩, .number n.toInt.natAbs]
        (Int64.ofInt (-(n.toInt.natAbs : Int))) :=
      .seq (.accept ⟨.minus, "-"⟩) (.cons (.bounded hbound) (.pure _))
    rwa [hback _ (by omega)] at hread
  · next hneg =>
    have hread : Reads p Rule.integer [.number n.toInt.natAbs]
        (Int64.ofInt (n.toInt.natAbs : Int)) :=
      .skip (.not_accept .minus) (.cons (.bounded hbound) (.pure _)) rfl
    rwa [hback _ (by omega)] at hread

/-- A rule that looks whether anything is left. -/
theorem Reads.atEnd_seq {α : Type} {x : Symbol} {xs : List Symbol} {f : Bool → Rule α} {a : α}
    (hf : Reads q (f false) (x :: xs) a) : Reads q (atEnd >>= f) (x :: xs) a := by
  intro ts rest hs hr
  obtain ⟨t, mid, rfl, -, -⟩ := spells_cons.1 hs
  exact bind_eq_ok.2 ⟨false, t :: mid, rfl, hf hs hr⟩

theorem Reads.sequenceOption {o : SequenceOption} (ho : o.Readable) :
    Reads Token.Kind.isQuiet Rule.sequenceOption o.symbols (some o) := by
  cases o with
  | type t =>
    refine .atEnd_seq (.accept_seq (.word .AS) ?_)
    exact ((Reads.dataType ho).mono t.admits_of_isQuiet).map fun t => some (SequenceOption.type t)
  | start n =>
    refine .atEnd_seq (.not_accept_seq (.accept_seq (.word .START) ?_) rfl)
    refine .accept_seq (.word .WITH) ?_
    exact (Reads.integer ho).map fun n => some (SequenceOption.start n)
  | increment n =>
    refine .atEnd_seq (.not_accept_seq (.not_accept_seq (.accept_seq (.word .INCREMENT) ?_) rfl) rfl)
    refine .accept_seq (.word .BY) ?_
    exact (Reads.integer ho).map fun n => some (SequenceOption.increment n)
  | noMinvalue =>
    refine .atEnd_seq (.not_accept_seq (.not_accept_seq (.not_accept_seq
      (.accept_seq (.word .NO) ?_) rfl) rfl) rfl)
    have hlimit : Reads Token.Kind.isQuiet noLimit [.word .MINVALUE] .noMinvalue :=
      .accept_seq (.word .MINVALUE) (.pure _)
    exact hlimit.map some
  | noMaxvalue =>
    refine .atEnd_seq (.not_accept_seq (.not_accept_seq (.not_accept_seq
      (.accept_seq (.word .NO) ?_) rfl) rfl) rfl)
    have hlimit : Reads Token.Kind.isQuiet noLimit [.word .MAXVALUE] .noMaxvalue :=
      .not_accept_seq (.accept_seq (.word .MAXVALUE) (.pure _)) rfl
    exact hlimit.map some
  | cache n =>
    refine .atEnd_seq (.not_accept_seq (.not_accept_seq (.not_accept_seq (.not_accept_seq
      (.accept_seq (.word .CACHE) ?_) rfl) rfl) rfl) rfl)
    exact (Reads.integer ho).map fun n => some (SequenceOption.cache n)

theorem Reads.no_sequenceOption : Reads Token.Kind.nothing Rule.sequenceOption [] none := by
  intro ts rest hs hr
  rw [spells_nil.1 hs]
  cases rest with
  | nil => rfl
  | cons t rest => cases follows_cons.1 hr

theorem Reads.createSequence {s : CreateSequence} (hs : s.Readable) :
    Reads Token.Kind.nothing Rule.createSequence (s.symbols.drop 2) (.createSequence s) := by
  have hfront : ∀ o ∈ s.options, ∃ x xs, o.symbols = x :: xs ∧ x.kind.isQuiet := by
    intro o _
    cases o <;> exact ⟨_, _, rfl, rfl⟩
  have hoptions : Reads Token.Kind.nothing (Rule.many Rule.sequenceOption)
      (s.options.flatMap SequenceOption.symbols) s.options :=
    .many (fun o ho => .sequenceOption (hs.options o ho)) hfront (fun _ h => by cases h)
      .no_sequenceOption
  have hfollows : Fronts Token.Kind.nothing (s.options.flatMap SequenceOption.symbols)
      (Token.Kind.isNot .dot) :=
    (Fronts.flatMap hfront fun _ h => by cases h).mono fun kind h => by cases kind <;> first | rfl | cases h
  have hread : Reads Token.Kind.nothing Rule.createSequence
      (s.name.symbols ++ s.options.flatMap SequenceOption.symbols)
      (.createSequence (s.options.foldl SequenceOption.addTo (.plain s.name))) :=
    (Reads.objectName s.name).bind (hoptions.map fun options =>
      Statement.createSequence (options.foldl SequenceOption.addTo (.plain s.name))) hfollows
  rw [s.foldl_options] at hread
  rw [s.symbols_eq]
  exact hread

end Rule

end SchemaPatch
