import SchemaPatch.Grammar.Statement
import SchemaPatch.Proofs.Grammar.ReadsActions
import SchemaPatch.Proofs.Grammar.ReadsCreate

/-!
# Reading back statements

The symbols of a statement that can be read are read as the statement, without remarks and without
its conditions that have no text (`Reading.ofTokens_symbols`).
-/

namespace SchemaPatch

variable {p q : Token.Kind → Bool} {S : Symbol → Prop} {ts rest : List Token}

namespace Rule

/-! ### Changes -/

theorem Reads.ownedBy (s : OwnSequence) : Reads Token.Kind.nothing (Rule.ownedBy s.sequence)
    (.word .OWNED :: .word .BY :: (s.table.symbols ++ [⟨.dot, "."⟩, .name s.column]))
    (.ownSequence s) := by
  obtain ⟨sequence, ⟨schema, table⟩, column⟩ := s
  cases schema with
  | none =>
    exact .words_seq [.OWNED, .BY] (.cons (.identifier table) (.expect_seq ⟨.dot, "."⟩
      (.cons (.identifier column) (.not_accept_seq (.pure _) fun _ h => by cases h))))
  | some schema =>
    exact .words_seq [.OWNED, .BY] (.cons (.identifier schema) (.expect_seq ⟨.dot, "."⟩
      (.cons (.identifier table) (.accept_seq ⟨.dot, "."⟩ (.cons (.identifier column) (.pure _))))))

theorem Reads.alteredTable (only : Bool) (table : ObjectName) :
    Reads (Token.Kind.isNot .dot) Rule.alteredTable
      ((if only then [.word .ONLY] else []) ++ table.symbols) (only, table) := by
  refine (Reads.acceptWord only .ONLY).bind
    ((Reads.objectName table).map fun table => (only, table)) ?_
  obtain ⟨schema, name⟩ := table
  cases schema <;> rfl

theorem actions_eq {as : List AlterAction} (hne : as ≠ []) (has : ∀ a ∈ as, a.Readable S)
    (hs : Spells (Symbol.listed (as.map AlterAction.symbols)) ts []) :
    actions ts = ([], .ok (as, [])) := by
  induction as generalizing ts with
  | nil => exact absurd rfl hne
  | cons a as ih =>
    obtain ⟨ha, has⟩ := List.forall_mem_cons.1 has
    cases as with
    | nil =>
      have hone := oneAction_of_written (ha.written_of_spells hs) (follows_nil _)
      rw [actions, hone]
      rfl
    | cons b as =>
      obtain ⟨mid, hx, hmid⟩ := spells_append.1 hs
      obtain ⟨t, mid, rfl, ht, hy⟩ := spells_cons.1 hmid
      have hkind : t.kind = .comma := congrArg Symbol.kind ht
      have hlength : mid.length < ts.length := by
        rw [hx.length_eq, List.length_cons]
        omega
      have hone := oneAction_of_written (ha.written_of_spells hx)
        (by simp [hkind] : Follows (· == .comma) (t :: mid))
      rw [actions, hone]
      simp only [hkind, hlength, and_self, if_true, ih (by simp) has hy]
      rfl

end Rule

/-! ### Statements -/

namespace Reading

/-- A reading of nothing but a statement. -/
def whole (s : Statement) : Reading := ⟨[], .ok (some (s, []))⟩

theorem ofRule_eq {r : Rule Statement} {xs : List Symbol} {s : Statement}
    (hr : Rule.Reads Token.Kind.nothing r xs s) (hs : Spells xs ts []) : ofRule r ts = whole s := by
  rw [ofRule, hr hs (follows_nil _)]
  rfl

theorem alterSequence_eq (s : OwnSequence) (hs : Spells (s.symbols.drop 2) ts []) :
    alterSequence ts = whole (.ownSequence s) := by
  obtain ⟨mid, hx, hy⟩ := spells_append.1 hs
  obtain ⟨t, us, rfl, ht, -⟩ := spells_cons.1 hy
  have hkind : t.kind = .keyword .OWNED := congrArg Symbol.kind ht
  rw [alterSequence, Rule.Reads.objectName s.sequence hx (by rw [follows_cons, hkind]; rfl)]
  simp only [hkind]
  exact ofRule_eq (.ownedBy s) hy

theorem alterTable_eq {s : AlterTable} (h : s.Readable S) (stop : Token)
    (hs : Spells (s.symbols.drop 2) ts []) : alterTable stop ts = whole (.alterTable s) := by
  obtain ⟨mid, hx, hy⟩ := spells_append.1 hs
  have hactions := Rule.actions_eq h.ne_nil h.actions hy
  obtain ⟨a, as, has⟩ := List.exists_cons_of_ne_nil h.ne_nil
  obtain ⟨t, us, rfl, hkind⟩ : ∃ t us, mid = t :: us ∧
      (t.kind = .keyword .ADD ∨ t.kind = .keyword .ALTER) := by
    obtain ⟨x, xs, hfront, hkind⟩ : ∃ x xs, a.symbols = x :: xs ∧
        (x.kind = .keyword .ADD ∨ x.kind = .keyword .ALTER) := by
      cases a with
      | addConstraint => exact ⟨_, _, rfl, .inl rfl⟩
      | setDefault => exact ⟨_, _, rfl, .inr rfl⟩
    obtain ⟨zs, hzs⟩ := Symbol.listed_cons x xs (as.map AlterAction.symbols)
    rw [has, List.map_cons, hfront, hzs] at hy
    obtain ⟨t, us, rfl, rfl, -⟩ := spells_cons.1 hy
    exact ⟨t, us, rfl, hkind⟩
  have hdot : Follows (Token.Kind.isNot .dot) (t :: us) := by
    rw [follows_cons]
    rcases hkind with hkind | hkind <;> (rw [hkind]; rfl)
  have howner : t.kind ≠ .keyword .OWNER := by
    rcases hkind with hkind | hkind <;> simp [hkind]
  rw [alterTable, Rule.Reads.alteredTable s.only s.table hx hdot]
  simp only [if_neg howner]
  rw [alterActions, hactions, has]
  obtain ⟨only, table, actions⟩ := s
  cases has
  rfl

theorem setParameter_eq {s : SetSearchPath} (h : s.Readable S) (stop : Token)
    (hs : Spells s.symbols.tail ts []) : setParameter stop ts = whole (.setSearchPath s) := by
  obtain ⟨t, mid, rfl, ht, hmid⟩ := spells_cons.1 hs
  obtain ⟨hkind, hliteral⟩ := Symbol.mk.inj ht
  have hnames : namesSearchPath t := by
    rw [namesSearchPath, Token.isIdentifier, hkind, hliteral]
    decide
  have hvalues : Rule.Reads Token.Kind.nothing (Rule.commaList (Rule.expression .lowest))
      (Symbol.listed (s.values.map Expression.symbols)) s.values :=
    .commaList h.ne_nil (fun e he => .expression (h.values e he).nested) rfl (fun _ h => by cases h)
  rw [setParameter, if_pos hnames]
  exact ofRule_eq (.accept_seq ⟨.equal, "="⟩ (hvalues.map fun values =>
    Statement.setSearchPath ⟨values⟩)) hmid

/-- The two words that a statement begins with, and the tokens behind them. -/
theorem words_front {k k' : Keyword} {xs : List Symbol}
    (hs : Spells (.word k :: .word k' :: xs) ts []) : ∃ t u us, ts = t :: u :: us ∧
      t.kind = .keyword k ∧ u.kind = .keyword k' ∧ Spells xs us [] := by
  obtain ⟨t, mid, rfl, ht, hmid⟩ := spells_cons.1 hs
  obtain ⟨u, us, rfl, hu, hus⟩ := spells_cons.1 hmid
  exact ⟨t, u, us, rfl, congrArg Symbol.kind ht, congrArg Symbol.kind hu, hus⟩

/-- **A statement is read back** from its symbols: if it can be read at all, reading gives it without
the conditions that have no text, and no remark. -/
theorem ofTokens_symbols {s : Statement} (h : s.Readable S) (stop : Token)
    (hts : ts.map Token.symbol = s.symbols) : ofTokens ts stop = whole s.withoutNulls := by
  have hs : Spells s.symbols ts [] := ⟨ts, (List.append_nil ts).symm, hts⟩
  cases s with
  | createSchema name =>
    obtain ⟨t, u, us, rfl, ht, hu, hus⟩ := words_front hs
    simp only [ofTokens, ht, create, hu]
    exact ofRule_eq (.createSchema name) hus
  | createTable s =>
    obtain ⟨t, u, us, rfl, ht, hu, hus⟩ := words_front hs
    simp only [ofTokens, ht, create, hu]
    exact ofRule_eq (.createTable h) hus
  | createIndex s =>
    obtain ⟨t, us, rfl, ht, hus⟩ := spells_cons.1 hs
    have hkind : t.kind = .keyword .CREATE := congrArg Symbol.kind ht
    have hread : ofRule Rule.createIndex us = whole (.createIndex s) :=
      ofRule_eq (.createIndex h) hus
    obtain ⟨u, us, rfl, hu⟩ : ∃ u vs, us = u :: vs ∧
        (u.kind = .keyword .UNIQUE ∨ u.kind = .keyword .INDEX) := by
      cases hunique : s.unique with
      | true =>
        simp only [hunique] at hus
        obtain ⟨u, vs, rfl, hu, -⟩ := spells_cons.1 hus
        exact ⟨u, vs, rfl, .inl (congrArg Symbol.kind hu)⟩
      | false =>
        simp only [hunique] at hus
        obtain ⟨u, vs, rfl, hu, -⟩ := spells_cons.1 hus
        exact ⟨u, vs, rfl, .inr (congrArg Symbol.kind hu)⟩
    rcases hu with hu | hu <;>
    · simp only [ofTokens, hkind, create, hu]
      exact hread
  | createSequence s =>
    obtain ⟨t, u, us, rfl, ht, hu, hus⟩ := words_front hs
    simp only [ofTokens, ht, create, hu]
    exact ofRule_eq (.createSequence h) hus
  | ownSequence s =>
    obtain ⟨t, u, us, rfl, ht, hu, hus⟩ := words_front hs
    simp only [ofTokens, ht, alter, hu]
    exact alterSequence_eq s hus
  | alterTable s =>
    obtain ⟨t, u, us, rfl, ht, hu, hus⟩ := words_front hs
    simp only [ofTokens, ht, alter, hu]
    exact alterTable_eq h stop hus
  | setSearchPath s =>
    obtain ⟨t, us, rfl, ht, hus⟩ := spells_cons.1 hs
    have hkind : t.kind = .keyword .SET := congrArg Symbol.kind ht
    simp only [ofTokens, hkind]
    exact setParameter_eq h stop hus

end Reading

end SchemaPatch
