import SchemaPatch.Proofs.Document.Reader
import SchemaPatch.Proofs.Grammar.ReadsStatement
import SchemaPatch.Proofs.Sql.LexingStatement
import SchemaPatch.Proofs.Sql.Plain

/-!
# Canonical texts are read back

The canonical text of a document is read without errors as the statements of the document, except
that it does not say of a column that it may have null values. This is so for the statements of any
text (`Document.ofText_sql`), as all that the grammar gives can be read back and the literals of a
text are read again wherever they are copied to.
-/

namespace SchemaPatch

/-! ### Conditions without a text -/

theorem ColumnDefinition.sql_withoutNulls (c : ColumnDefinition) : c.withoutNulls.sql = c.sql := by
  have hconstraints : ∀ ks : List ColumnConstraint,
      constraintsSql (ks.filter (· ≠ .null)) = constraintsSql ks := by
    intro ks
    induction ks with
    | nil => rfl
    | cons k ks ih =>
      rw [constraintsSql_cons k, ← ih]
      by_cases hk : k = .null
      · simp [hk]
      · rw [List.filter_cons_of_pos (by simp [hk]), constraintsSql_cons]
  rw [sql, sql, withoutNulls, hconstraints]

theorem Statement.sql_withoutNulls (s : Statement) : s.withoutNulls.sql = s.sql := by
  cases s with
  | createTable s =>
    have hcolumns : ∀ cs : List ColumnDefinition,
        CreateTable.columnsSql (cs.map .withoutNulls) = CreateTable.columnsSql cs := by
      intro cs
      induction cs with
      | nil => rfl
      | cons c cs ih =>
        cases cs with
        | nil => simp [CreateTable.columnsSql, c.sql_withoutNulls]
        | cons d cs =>
          rw [List.map_cons, List.map_cons, CreateTable.columnsSql, CreateTable.columnsSql,
            c.sql_withoutNulls, ← ih]
          rfl
    show CreateTable.sql { s with columns := s.columns.map .withoutNulls } = s.sql
    delta CreateTable.sql
    rw [hcolumns]
  | _ => rfl

theorem Statement.sqlAll_withoutNulls (l : List Statement) :
    sqlAll (l.map withoutNulls) = sqlAll l := by
  induction l with
  | nil => rfl
  | cons s l ih => rw [List.map_cons, sqlAll, sqlAll, s.sql_withoutNulls, ih]

/-! ### The statements of a text can be read back -/

namespace TokenStream

/-- The tokens of a portion are tokens of the stream. -/
theorem mem_of_mem_portions {ts : List Token} {stop stop' : Token} {body : List Token}
    (h : .statement body stop' ∈ portions ⟨ts, stop⟩) : ∀ t ∈ body, t ∈ ts := by
  induction hn : ts.length using Nat.strongRecOn generalizing ts with
  | _ n ih =>
    cases ts with
    | nil => simp at h
    | cons t ts =>
      subst hn
      rw [portions_cons] at h
      rcases portion_cases t ts stop with ⟨-, hp⟩ | ⟨front, semicolon, rest, happ, -, hp⟩ | hp
      · rw [hp] at h
        rcases List.mem_cons.1 h with h | h
        · cases h
        · exact fun u hu => List.mem_cons_of_mem t (ih _ (Nat.lt_succ_self _) h rfl u hu)
      · rw [hp] at h
        have hlen := congrArg List.length happ
        simp only [List.length_append, List.length_cons] at hlen
        rcases List.mem_cons.1 h with h | h
        · cases h
          intro u hu
          rw [happ]
          exact List.mem_append_left _ hu
        · intro u hu
          rw [happ]
          have := ih rest.length (by simp only [List.length_cons]; omega) h rfl u hu
          simp [this]
      · rw [hp, portions_nil, List.mem_singleton] at h
        cases h
        exact fun u hu => hu

end TokenStream

/-- A statement comes of its own reading, and of nothing else. -/
theorem Attempt.settle_eq_parsed {body : List Token} {stop : Token} {s : Statement}
    {r : Except Fault (Option (Statement × List Token))} :
    settle body stop r = .parsed s ↔ r = .ok (some (s, [])) := by
  cases r with
  | error f => simp [settle]
  | ok o =>
    cases o with
    | none =>
      unfold settle
      dsimp only
      split
      · split <;> simp
      · simp
    | some x =>
      obtain ⟨x, rest⟩ := x
      cases rest <;> simp [settle]

theorem Attempt.statement?_eq_some {a : Attempt} {s : Statement} :
    a.statement? = some s ↔ a.outcome = .parsed s := by
  unfold statement?
  split <;> simp_all

variable {S : Symbol → Prop}

/-- The statements of a stream can be read back, with literals of the stream. -/
theorem TokenStream.readable_of_mem_attempts {s : TokenStream} (hs : Tokens S s.tokens)
    {a : Attempt} (ha : a ∈ s.attempts) {x : Statement} (hx : a.statement? = some x) :
    x.Readable S := by
  obtain ⟨p, hp, rfl⟩ := List.mem_map.1 ha
  rw [Attempt.statement?_eq_some] at hx
  cases p with
  | metaCommand t => cases hx
  | statement body stop =>
    have hbody : Tokens S body := fun t ht => hs t (mem_of_mem_portions hp t ht)
    exact (Reading.ofTokens_sound stop hbody (Attempt.settle_eq_parsed.1 hx)).1

/-- The literals of a text are read again. -/
theorem TokenStream.survive_primed (text : String) :
    Tokens Symbol.Survives (ofText text).primed.tokens := by
  have hall : Tokens Symbol.Survives (ofText text).tokens := by
    intro t ht
    have hmem := List.mem_map_of_mem (f := Token.symbol) ht
    rw [symbols_toList] at hmem
    exact Symbol.survives_of_mem hmem
  unfold primed
  split
  · next t u htokens =>
    split
    · rw [htokens] at hall
      intro v hv
      simp only [List.mem_cons, List.not_mem_nil, or_false] at hv
      rcases hv with rfl | rfl
      · exact hall.head
      · rintro (hk | hk) <;> cases hk
    · exact hall
  · exact hall

theorem Document.readable_statements (name text : String) :
    ∀ s ∈ (ofText name text).statements, s.Readable Symbol.Survives := by
  intro s hs
  obtain ⟨a, ha, hx⟩ := List.mem_filterMap.1 hs
  rw [ofText_eq] at ha
  exact TokenStream.readable_of_mem_attempts (TokenStream.survive_primed text) ha hx

/-! ### Reading canonical texts -/

namespace TokenStream

/-- A stream that has more than an unterminated token in it is read as it is. -/
theorem primed_of_plain {s : TokenStream}
    (h : ∀ t ∈ s.tokens, t.kind ≠ .unterminated) : s.primed = s := by
  unfold primed
  split
  · next t u htokens =>
    rw [htokens] at h
    rw [if_neg (h u (by simp))]
  · rfl

/-- Tokens that can stand inside a statement, and a semicolon behind them, are a portion. -/
theorem portions_of_isPlain {body : List Token} {semicolon : Token} (rest : List Token) (stop : Token)
    (hbody : ∀ t ∈ body, t.kind.isPlain) (hkind : semicolon.kind = .semicolon) :
    portions ⟨body ++ semicolon :: rest, stop⟩ =
      .statement body semicolon :: portions ⟨rest, stop⟩ := by
  have hfirst : ∀ t ∈ body.head?, t.kind ≠ .metaCommand := by
    intro t ht hk
    have := hbody t (List.mem_of_mem_head? ht)
    simp [hk] at this
  have hinside : ∀ t ∈ body, t.isBody := by
    intro t ht
    have := hbody t ht
    cases hk : t.kind <;> simp_all [Token.isBody]
  exact portions_semicolon rest stop hfirst hinside hkind

/-- Statements with semicolons behind them are read one by one. -/
theorem outcomes_of_symbols {l : List Statement} (hl : ∀ s ∈ l, s.Readable S) {ts : List Token}
    {stop : Token} (hts : ts.map Token.symbol = Statement.symbolsAll l) :
    (attempts ⟨ts, stop⟩).map Attempt.outcome = l.map fun s => .parsed s.withoutNulls := by
  induction l generalizing ts with
  | nil =>
    have hnil : ts = [] := List.map_eq_nil_iff.1 hts
    rw [hnil, attempts, portions_nil]
    rfl
  | cons s l ih =>
    obtain ⟨hs, hl⟩ := List.forall_mem_cons.1 hl
    rw [Statement.symbolsAll, List.flatMap_cons, List.append_assoc] at hts
    obtain ⟨body, us, rfl, hbody, hus⟩ := List.map_eq_append_iff.1 hts
    obtain ⟨semicolon, rest, rfl, hsemicolon, hrest⟩ := List.map_eq_cons_iff.1 hus
    have hplain : ∀ t ∈ body, t.kind.isPlain := by
      intro t ht
      have hmem := List.mem_map_of_mem (f := Token.symbol) ht
      rw [hbody] at hmem
      exact hs.plain_symbols _ hmem
    have hread : (Attempt.ofPortion (.statement body semicolon)).outcome =
        .parsed s.withoutNulls := by
      simp only [Attempt.ofPortion, Reading.ofTokens_symbols hs semicolon hbody]
      rfl
    have hkind : semicolon.kind = .semicolon := congrArg Symbol.kind hsemicolon
    rw [attempts, portions_of_isPlain rest stop hplain hkind, List.map_cons, List.map_cons,
      hread, List.map_cons]
    exact congrArg _ (ih hl hrest)

end TokenStream

/-- Without errors, the statements that were read are those of the outcomes. -/
theorem Document.of_outcomes {d : Document} {l : List Statement}
    (h : d.attempts.map Attempt.outcome = l.map .parsed) : d.errors = [] ∧ d.statements = l := by
  obtain ⟨name, attempts⟩ := d
  simp only [errors, statements] at h ⊢
  induction attempts generalizing l with
  | nil =>
    have hnil : l = [] := by simpa using h.symm
    exact ⟨rfl, hnil.symm⟩
  | cons a attempts ih =>
    obtain ⟨s, l, rfl, hs, hl⟩ := List.map_eq_cons_iff.1 h.symm
    obtain ⟨herrors, hstatements⟩ := ih hl.symm
    have hnone : a.error? name = none := by simp [Attempt.error?, ← hs]
    have hsome : a.statement? = some s := Attempt.statement?_eq_some.2 hs.symm
    rw [List.filterMap_cons_none hnone, List.filterMap_cons_some hsome]
    exact ⟨herrors, congrArg _ hstatements⟩

/-- A text that is lexed to the symbols of statements that can be read back is read as these. -/
theorem Document.ofText_of_symbols (name : String) {text : String} {l : List Statement}
    (hl : ∀ s ∈ l, s.Readable Symbol.Survives)
    (hsymbols : symbols text.toList = Statement.symbolsAll l) :
    (ofText name text).errors = [] ∧
      (ofText name text).statements = l.map Statement.withoutNulls := by
  rw [← symbols_toList] at hsymbols
  have hterminated : ∀ t ∈ (TokenStream.ofText text).tokens, t.kind ≠ .unterminated := by
    intro t ht hk
    have hmem := List.mem_map_of_mem (f := Token.symbol) ht
    rw [hsymbols] at hmem
    obtain ⟨s, hs, hx⟩ := List.mem_flatMap.1 hmem
    rcases List.mem_append.1 hx with hx | hx
    · have := (hl s hs).plain_symbols _ hx
      simp [hk] at this
    · have := congrArg Symbol.kind (List.mem_singleton.1 hx)
      simp [hk, Symbol.semicolon] at this
  refine of_outcomes ?_
  rw [List.map_map, ofText_eq, TokenStream.primed_of_plain hterminated]
  exact TokenStream.outcomes_of_symbols hl hsymbols

/-- **Canonical texts are read back**: the canonical text of what was read of a text, with errors or
without, is read without errors as the same statements, apart from the conditions that have no text,
and its own canonical text is the same. -/
theorem Document.ofText_sql (name name' text : String) :
    (ofText name' (ofText name text).sql).errors = [] ∧
      (ofText name' (ofText name text).sql).statements =
        (ofText name text).statements.map Statement.withoutNulls ∧
      (ofText name' (ofText name text).sql).sql = (ofText name text).sql := by
  have hreadable := readable_statements name text
  obtain ⟨herrors, hstatements⟩ :=
    ofText_of_symbols name' hreadable (Statement.symbols_sqlAll hreadable)
  refine ⟨herrors, hstatements, ?_⟩
  rw [sql, sql, hstatements, Statement.sqlAll_withoutNulls]

end SchemaPatch
