import SchemaPatch.Proofs.Document.Alike
import SchemaPatch.Proofs.Document.RoundTrip
import SchemaPatch.Proofs.Token.Restart

/-!
# Concatenated documents

Two documents with a semicolon on a line between them are one document that says what the two say:
if none of them breaks off, its statements are those of the one and those of the other, and so are
its errors, the latter with the lines counted from the start (`Document.ofText_append`). What a
statement is, and whether it is refused, depends on no other one. Only the last statement of the
first document is ended by something else, which shows in the error if it is refused for what is
missing there.
-/

namespace SchemaPatch

/-! ### The portions of a concatenation -/

/-- What the portions of a stream that ends in `stop` become if it ends in a semicolon instead: it
ends the last statement, or an empty one behind it. -/
inductive Portion.EndedBy (stop semicolon : Token) : List Portion → List Portion → Prop where
  /-- The last portion is a whole one. -/
  | behind (ps : List Portion) : EndedBy stop semicolon ps (ps ++ [.statement [] semicolon])
  /-- The last statement went on to the end. -/
  | last (ps : List Portion) {body : List Token} (h : body ≠ []) :
    EndedBy stop semicolon (ps ++ [.statement body stop]) (ps ++ [.statement body semicolon])

theorem Portion.EndedBy.cons {stop semicolon : Token} {ps qs : List Portion}
    (h : EndedBy stop semicolon ps qs) (p : Portion) : EndedBy stop semicolon (p :: ps) (p :: qs) := by
  cases h with
  | behind ps => exact .behind (p :: ps)
  | last ps hbody => exact .last (p :: ps) hbody

/-- Tokens go on to the first semicolon, or there is none. -/
theorem isBody_cases (ts : List Token) : (∀ t ∈ ts, t.isBody) ∨
    ∃ body semicolon rest, ts = body ++ semicolon :: rest ∧ (∀ t ∈ body, t.isBody) ∧
      semicolon.kind = .semicolon := by
  induction ts with
  | nil => exact .inl (by simp)
  | cons t ts ih =>
    by_cases hs : t.kind = .semicolon
    · exact .inr ⟨[], t, ts, rfl, by simp, hs⟩
    · have ht : t.isBody := by simpa [Token.isBody] using hs
      rcases ih with hall | ⟨body, semicolon, rest, rfl, hbody, hsemicolon⟩
      · exact .inl (List.forall_mem_cons.2 ⟨ht, hall⟩)
      · exact .inr ⟨t :: body, semicolon, rest, rfl, List.forall_mem_cons.2 ⟨ht, hbody⟩, hsemicolon⟩

namespace TokenStream

/-- The tokens before a semicolon are cut as if they were alone. -/
theorem portions_append {semicolon : Token} (hs : semicolon.kind = .semicolon) (ts us : List Token)
    (stop stop' : Token) :
    ∃ front, portions ⟨ts ++ semicolon :: us, stop⟩ = front ++ portions ⟨us, stop⟩ ∧
      Portion.EndedBy stop' semicolon (portions ⟨ts, stop'⟩) front := by
  -- By induction on the length: the first portion, and what is behind it.
  induction hn : ts.length using Nat.strongRecOn generalizing ts with
  | _ n ih =>
    subst hn
    cases ts with
    | nil =>
      have hempty := @portions_semicolon [] semicolon us stop (by simp) (by simp) hs
      refine ⟨[.statement [] semicolon], hempty, ?_⟩
      rw [portions_nil]
      exact .behind []
    | cons t ts =>
      by_cases hm : t.kind = .metaCommand
      · obtain ⟨front, hfront, hended⟩ := ih _ (Nat.lt_succ_self _) ts rfl
        refine ⟨.metaCommand t :: front, ?_, ?_⟩
        · rw [List.cons_append, portions_metaCommand hm, hfront]
          rfl
        · rw [portions_metaCommand hm]
          exact hended.cons _
      · rcases isBody_cases (t :: ts) with hbody | ⟨body, s, rest, happ, hbody, hsemicolon⟩
        · refine ⟨[.statement (t :: ts) semicolon],
            portions_semicolon us stop (by simpa using hm) hbody hs, ?_⟩
          rw [portions_of_isBody hm hbody]
          exact .last [] (by simp)
        · have hhead : ∀ x ∈ body.head?, x.kind ≠ .metaCommand := by
            cases body with
            | nil => simp
            | cons u body =>
              obtain ⟨rfl, -⟩ := List.cons.inj happ
              simpa using hm
          rw [happ] at ih ⊢
          obtain ⟨front, hfront, hended⟩ := ih _ (by simp; omega) rest rfl
          refine ⟨.statement body s :: front, ?_, ?_⟩
          · rw [List.append_assoc, List.cons_append,
              portions_semicolon _ stop hhead hbody hsemicolon, hfront]
            rfl
          · rw [portions_semicolon rest stop' hhead hbody hsemicolon]
            exact hended.cons _

end TokenStream

/-! ### What comes of the portions -/

/-- An error some lines later. -/
def SyntaxError.moved (n : Nat) (e : SyntaxError) : SyntaxError := { e with line := e.line + n }

theorem Fault.Cause.message_moved (n : Nat) (t : Token) (cause : Fault.Cause) :
    cause.message (t.moved n) = cause.message t := by
  cases cause <;> rfl

namespace Attempt

variable {Q : Token → Token → Prop} {a b : Attempt}

theorem statement?_eq (h : a.outcome.Alike Q b.outcome) : a.statement? = b.statement? := by
  unfold statement?
  generalize a.outcome = x at h ⊢
  generalize b.outcome = y at h ⊢
  cases h <;> rfl

theorem isSome_error?_eq (name : String) (h : a.outcome.Alike Q b.outcome) :
    (a.error? name).isSome = (b.error? name).isSome := by
  unfold error?
  generalize a.outcome = x at h ⊢
  generalize b.outcome = y at h ⊢
  cases h <;> rfl

theorem error?_moved (name : String) {n : Nat}
    (h : a.outcome.Alike (fun t u => u = t.moved n) b.outcome) :
    b.error? name = (a.error? name).map (.moved n) := by
  unfold error?
  generalize a.outcome = x at h ⊢
  generalize b.outcome = y at h ⊢
  cases h with
  | parsed | skipped => rfl
  | failed cause ht =>
    subst ht
    simp only [Fault.Cause.locate, Fault.Cause.message_moved]
    rfl

end Attempt

theorem keepsSymbols_moved (n : Nat) : KeepsSymbols fun t u => u = t.moved n := by
  rintro t _ rfl
  rfl

theorem filterMap_eq_of_forall₂ {α β : Type} {f g : α → Option β} {l m : List α}
    (h : List.Forall₂ (fun a b => f a = g b) l m) : l.filterMap f = m.filterMap g := by
  induction h with
  | nil => rfl
  | cons hab _ ih => rw [List.filterMap_cons, List.filterMap_cons, hab, ih]

namespace TokenStream

/-- The same comes of a stream some lines later, some lines later. -/
theorem attempts_moved (s : TokenStream) (n : Nat) :
    List.Forall₂ (fun a b : Attempt => a.outcome.Alike (fun t u => u = t.moved n) b.outcome)
      s.attempts (s.moved n).attempts := by
  have htokens : List.Forall₂ (fun t u : Token => u = t.moved n) s.tokens (s.tokens.map (.moved n)) :=
    List.forall₂_map_right_iff.2 (List.forall₂_same.2 fun _ _ => rfl)
  exact attempts_alike (keepsSymbols_moved n) htokens (rfl : s.stop.moved n = _)

theorem statements_moved (s : TokenStream) (n : Nat) :
    (s.moved n).attempts.filterMap Attempt.statement? = s.attempts.filterMap Attempt.statement? :=
  (filterMap_eq_of_forall₂ ((s.attempts_moved n).imp fun _ _ h => Attempt.statement?_eq h)).symm

theorem errors_moved (s : TokenStream) (n : Nat) (name : String) :
    (s.moved n).attempts.filterMap (Attempt.error? name) =
      (s.attempts.filterMap (Attempt.error? name)).map (.moved n) := by
  rw [List.map_filterMap]
  exact (filterMap_eq_of_forall₂ ((s.attempts_moved n).imp fun _ _ h =>
    (Attempt.error?_moved name h).symm)).symm

end TokenStream

namespace Portion.EndedBy

variable {stop semicolon : Token} {ps qs : List Portion}

theorem outcome_empty (hs : semicolon.kind = .semicolon) :
    (Attempt.ofPortion (.statement [] semicolon)).outcome = .skipped := by
  simp [Attempt.ofPortion, Reading.ofTokens, hs, Attempt.settle]

theorem outcome_last (stop semicolon : Token) {body : List Token} (hbody : body ≠ []) :
    (Attempt.ofPortion (.statement body stop)).outcome.Alike (fun _ _ => True)
      (Attempt.ofPortion (.statement body semicolon)).outcome :=
  Attempt.outcome_alike (R := Eq) (by rintro t _ rfl; rfl) (fun _ _ _ => trivial)
    (.statement (List.forall₂_same.2 fun _ _ => rfl) trivial fun h => absurd h hbody)

/-- The end of a stream makes no difference to the statements that are read. -/
theorem statements (h : EndedBy stop semicolon ps qs) (hs : semicolon.kind = .semicolon) :
    (qs.map Attempt.ofPortion).filterMap Attempt.statement? =
      (ps.map Attempt.ofPortion).filterMap Attempt.statement? := by
  cases h with
  | behind ps => simp [Attempt.statement?, outcome_empty hs]
  | last ps hbody =>
    have hsame := Attempt.statement?_eq (outcome_last stop semicolon hbody)
    simp [List.filterMap_cons, hsame]

/-- The end of a stream shows in the last error at most. -/
theorem errors (h : EndedBy stop semicolon ps qs) (hs : semicolon.kind = .semicolon) (name : String) :
    ((qs.map Attempt.ofPortion).filterMap (Attempt.error? name)).length =
        ((ps.map Attempt.ofPortion).filterMap (Attempt.error? name)).length ∧
      ((qs.map Attempt.ofPortion).filterMap (Attempt.error? name)).dropLast =
        ((ps.map Attempt.ofPortion).filterMap (Attempt.error? name)).dropLast := by
  cases h with
  | behind ps => simp [Attempt.error?, outcome_empty hs]
  | @last ps body hbody =>
    have hsame := Attempt.isSome_error?_eq name (outcome_last stop semicolon hbody)
    simp only [List.map_append, List.map_cons, List.map_nil, List.filterMap_append,
      List.filterMap_cons, List.filterMap_nil]
    generalize (Attempt.ofPortion (.statement body stop)).error? name = e at hsame ⊢
    generalize (Attempt.ofPortion (.statement body semicolon)).error? name = e' at hsame ⊢
    cases e <;> cases e' <;> simp at hsame ⊢

end Portion.EndedBy

/-! ### Documents -/

theorem TokenStream.moved_moved (s : TokenStream) (m n : Nat) :
    (s.moved m).moved n = s.moved (m + n) := by
  simp [moved, Token.moved, Nat.add_assoc]

/-- The tokens of two texts with a semicolon on a line between them. -/
theorem TokenStream.ofText_semicolon {first : String} (second : String)
    (h : ¬ (ofText first).isTruncated) :
    ofText (first ++ "\n;\n" ++ second) =
      ⟨(ofText first).tokens ++ ⟨.semicolon, ";", Lexer.lineFeeds first.toList + 2⟩ ::
          ((ofText second).moved (Lexer.lineFeeds first.toList + 2)).tokens,
        ((ofText second).moved (Lexer.lineFeeds first.toList + 2)).stop⟩ := by
  have hsemicolon : ofText ";" = ⟨[⟨.semicolon, ";", 1⟩], .eof 1⟩ := by decide +kernel
  have hwhole : ¬ (ofText ";").isTruncated := by decide +kernel
  have htext : first ++ "\n;\n" ++ second = first ++ "\n" ++ (";" ++ "\n" ++ second) := by
    have hmiddle : "\n;\n" = "\n" ++ (";" ++ "\n") := rfl
    rw [hmiddle]
    simp only [String.append_assoc]
  have hline : 1 + (Lexer.lineFeeds first.toList + 1) = Lexer.lineFeeds first.toList + 2 := by omega
  have hlater := (ofText second).moved_moved 1 (Lexer.lineFeeds first.toList + 1)
  rw [hline] at hlater
  rw [htext, ofText_append_line _ h, ofText_append_line _ hwhole, hsemicolon, ← hlater]
  show TokenStream.mk (_ ++ ⟨.semicolon, ";", 1 + (Lexer.lineFeeds first.toList + 1)⟩ :: _) _ = _
  rw [hline]
  rfl

/-- **Errors are isolated.** Of two texts that do not break off, with a semicolon on a line between
them, the statements are those of the one and those of the other, and the errors are as many as
those of the one, then those of the other some lines later. Of the former, the last one alone may
show elsewhere. -/
theorem Document.ofText_append (name : String) {first second : String}
    (hfirst : ¬ (TokenStream.ofText first).isTruncated)
    (hsecond : ¬ (TokenStream.ofText second).isTruncated) :
    (ofText name (first ++ "\n;\n" ++ second)).statements =
        (ofText name first).statements ++ (ofText name second).statements ∧
      ∃ front : List SyntaxError, (ofText name (first ++ "\n;\n" ++ second)).errors =
          front ++ (ofText name second).errors.map (.moved (Lexer.lineFeeds first.toList + 2)) ∧
        front.length = (ofText name first).errors.length ∧
        front.dropLast = (ofText name first).errors.dropLast := by
  have hsemicolon : (Token.mk .semicolon ";" (Lexer.lineFeeds first.toList + 2)).kind = .semicolon :=
    rfl
  have htokens := TokenStream.ofText_semicolon second hfirst
  have hnone := TokenStream.kind_ne_of_not_isTruncated hfirst
  have hnone' := TokenStream.kind_ne_of_not_isTruncated hsecond
  have hall : ∀ t ∈ (TokenStream.ofText (first ++ "\n;\n" ++ second)).tokens,
      t.kind ≠ .unterminated := by
    rw [htokens]
    intro t ht
    rcases List.mem_append.1 ht with ht | ht
    · exact hnone t ht
    · rcases List.mem_cons.1 ht with rfl | ht
      · simp
      · obtain ⟨u, hu, rfl⟩ := List.mem_map.1 ht
        exact hnone' u hu
  obtain ⟨front, hfront, hended⟩ := TokenStream.portions_append hsemicolon
    (TokenStream.ofText first).tokens
    ((TokenStream.ofText second).moved (Lexer.lineFeeds first.toList + 2)).tokens
    ((TokenStream.ofText second).moved (Lexer.lineFeeds first.toList + 2)).stop
    (TokenStream.ofText first).stop
  have hattempts : (TokenStream.ofText (first ++ "\n;\n" ++ second)).attempts =
      front.map .ofPortion ++
        ((TokenStream.ofText second).moved (Lexer.lineFeeds first.toList + 2)).attempts := by
    rw [TokenStream.attempts, htokens, hfront, List.map_append]
    rfl
  obtain ⟨hlength, hinit⟩ := hended.errors hsemicolon name
  simp only [statements, errors, ofText_eq, TokenStream.primed_of_plain hall,
    TokenStream.primed_of_plain hnone, TokenStream.primed_of_plain hnone', hattempts,
    List.filterMap_append, TokenStream.statements_moved, TokenStream.errors_moved,
    hended.statements hsemicolon]
  exact ⟨rfl, _, rfl, hlength, hinit⟩

/-- A table that is not finished takes nothing from what follows it: the schema is created, and both
statements that are refused have their errors, of which the first now shows at the semicolon between
the texts. -/
theorem Document.ofText_append_unfinished :
    ¬ (TokenStream.ofText "CREATE TABLE t (").isTruncated ∧
      ¬ (TokenStream.ofText "DROP;\nCREATE SCHEMA s").isTruncated ∧
      (ofText "a.sql" "CREATE TABLE t (").errors =
        [⟨"a.sql", 1, "expected identifier, found end of input"⟩] ∧
      (ofText "a.sql" "DROP;\nCREATE SCHEMA s").errors = [⟨"a.sql", 1, "unknown statement DROP"⟩] ∧
      (ofText "a.sql" ("CREATE TABLE t (" ++ "\n;\n" ++ "DROP;\nCREATE SCHEMA s")).statements =
        [.createSchema ⟨"s"⟩] ∧
      (ofText "a.sql" ("CREATE TABLE t (" ++ "\n;\n" ++ "DROP;\nCREATE SCHEMA s")).errors =
        [⟨"a.sql", 2, "expected identifier, found ;"⟩, ⟨"a.sql", 3, "unknown statement DROP"⟩] := by
  have hfirst : ¬ (TokenStream.ofText "CREATE TABLE t (").isTruncated := by decide +kernel
  have hsecond : ¬ (TokenStream.ofText "DROP;\nCREATE SCHEMA s").isTruncated := by decide +kernel
  have hnone : (ofText "a.sql" "CREATE TABLE t (").statements = [] := by decide +kernel
  have herror : (ofText "a.sql" "CREATE TABLE t (").errors =
      [⟨"a.sql", 1, "expected identifier, found end of input"⟩] := by decide +kernel
  have hschema : (ofText "a.sql" "DROP;\nCREATE SCHEMA s").statements = [.createSchema ⟨"s"⟩] := by
    decide +kernel
  have herror' : (ofText "a.sql" "DROP;\nCREATE SCHEMA s").errors =
      [⟨"a.sql", 1, "unknown statement DROP"⟩] := by decide +kernel
  have hline : Lexer.lineFeeds "CREATE TABLE t (".toList + 2 = 2 := by decide
  have hmoved : (ofText "a.sql" ("CREATE TABLE t (" ++ "\n;\n" ++ "DROP;\nCREATE SCHEMA s")).errors.head? =
      some ⟨"a.sql", 2, "expected identifier, found ;"⟩ := by decide +kernel
  obtain ⟨hstatements, front, herrors, hlength, -⟩ := ofText_append "a.sql" hfirst hsecond
  rw [hnone, hschema, List.nil_append] at hstatements
  rw [herror] at hlength
  obtain ⟨e, rfl⟩ := List.length_eq_one_iff.1 hlength
  rw [herrors] at hmoved
  cases hmoved
  rw [herror', hline] at herrors
  exact ⟨hfirst, hsecond, herror, herror', hstatements, herrors⟩

end SchemaPatch
