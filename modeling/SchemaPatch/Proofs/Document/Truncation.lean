import SchemaPatch.Comparison.Basic
import SchemaPatch.Proofs.Document.Reader

/-!
# Documents that break off

A document whose text breaks off in a string, a quoted name or a block comment is not to be compared
with another one. The unterminated token is the last one, so it is in the last portion, and no rule
takes it: wherever it stands there, the statement is refused (`Attempt.ofPortion_outcome`).

One document escapes. When there are two tokens in all, the second is taken for a stray character,
and a statement that is passed over at its first token is passed over with it. Main statement: a
document that breaks off has an error unless it is one of these (`Document.isClean_iff_isOverlooked`).
-/

namespace SchemaPatch

/-! ### The last portion -/

/-- An unterminated token that ends a stream ends one of its portions. -/
theorem TokenStream.exists_mem_portions {ts : List Token} {u : Token} (stop : Token)
    (hu : ts.getLast? = some u) (hk : u.kind = .unterminated) :
    ∃ body stop', .statement body stop' ∈ portions ⟨ts, stop⟩ ∧ body.getLast? = some u := by
  induction hn : ts.length using Nat.strongRecOn generalizing ts with
  | _ n ih =>
    cases ts with
    | nil => cases hu
    | cons t ts =>
      subst hn
      -- Where a portion does not end in the token, the stream behind it does.
      have hrest : ∀ {p : Portion} {rest : List Token}, portion ⟨t :: ts, stop⟩ = (p, ⟨rest, stop⟩) →
          rest.getLast? = some u → rest.length < (t :: ts).length →
          ∃ body stop', .statement body stop' ∈ portions ⟨t :: ts, stop⟩ ∧ body.getLast? = some u := by
        intro p rest hp hr hlt
        obtain ⟨body, stop', hm, hb⟩ := ih _ hlt hr rfl
        exact ⟨body, stop', by rw [portions_cons, hp]; exact .tail _ hm, hb⟩
      rcases portion_cases t ts stop with
        ⟨hm, hp⟩ | ⟨body, semicolon, rest, happ, hs, hp⟩ | hp
      · exact hrest hp ((Passes.one (by simp [hm])).getLast? hu hk) (Nat.lt_succ_self _)
      · have hlast : (semicolon :: rest).getLast? = some u := by
          rw [happ, List.getLast?_append] at hu
          simpa using hu
        have hlen := congrArg List.length happ
        simp only [List.length_append, List.length_cons] at hlen ⊢
        exact hrest hp ((Passes.one (by simp [hs])).getLast? hlast hk)
          (by simp only [List.length_cons]; omega)
      · exact ⟨t :: ts, stop, by rw [portions_cons, hp]; exact .head _, hu⟩

/-! ### Statements that are refused -/

/-- The statement is refused. -/
def Attempt.Fails (a : Attempt) : Prop := ∃ cause found, a.outcome = .failed cause found

/-- A statement that ends in an unterminated token is refused. -/
theorem Attempt.fails_of_getLast? {body : List Token} {u : Token} (stop : Token)
    (hu : body.getLast? = some u) (hk : u.kind = .unterminated) :
    (ofPortion (.statement body stop)).Fails := by
  have hsound : (Reading.ofTokens body stop).Sound (fun _ => True) body :=
    Reading.ofTokens_sound stop fun _ _ => trivial
  unfold Fails ofPortion settle
  dsimp only
  split
  · exact ⟨_, _, rfl⟩
  · next s hr =>
    have hnil := (hsound hr).2.getLast? hu hk
    cases hnil
  · exact ⟨_, _, rfl⟩
  · simp [hu, hk]

/-- A statement is refused if it begins with an illegal token. -/
theorem Attempt.fails_of_isIllegal {t : Token} {ts : List Token} (stop : Token)
    (ht : t.kind.isIllegal) : (ofPortion (.statement (t :: ts) stop)).Fails := by
  have hr : (Reading.ofTokens (t :: ts) stop).result = .error ⟨.illegal, some t⟩ := by
    cases hk : t.kind <;> simp [hk, Token.Kind.isIllegal] at ht <;>
      simp [Reading.ofTokens, hk, Token.Kind.isIllegal, Reading.refused]
  exact ⟨.illegal, t, by simp [ofPortion, settle, hr]⟩

/-- Whether a keyword begins a statement that is passed over if a stray character follows. -/
def Reading.passesStray (k : Keyword) : Bool := isForeignStatement k || k == .ALTER || k == .SET

/-- A statement of two tokens, the second of which is a stray character, is refused unless it is
passed over at the first. -/
theorem Attempt.fails_stray_iff {t u : Token} (stop : Token) (hu : u.kind = .stray) :
    (ofPortion (.statement [t, u] stop)).Fails ↔ ¬ t.keyword?.any Reading.passesStray := by
  have hpassed : ∀ r : Remark, settle [t, u] stop (Reading.passed r).result = .skipped := by
    intro r
    simp [settle, Reading.passed, hu]
  have hrefused : ∀ cause found, settle [t, u] stop (Reading.refused cause found).result =
      .failed cause (found.getD stop) := fun _ _ => rfl
  show (∃ cause found, settle [t, u] stop (Reading.ofTokens [t, u] stop).result = _) ↔ _
  unfold Reading.ofTokens Token.keyword?
  dsimp only
  split
  · next hk =>
    simp [Reading.create, hu, hk, hrefused, Token.Kind.keyword?, Reading.passesStray,
      Reading.isForeignStatement]
  · next hk => simp [Reading.alter, hu, hk, hpassed, Token.Kind.keyword?, Reading.passesStray]
  · next hk =>
    simp [Reading.setParameter, Reading.namesSearchPath, Token.isIdentifier, hu, hk, hpassed,
      Token.Kind.keyword?, Reading.passesStray]
  · next hc ha hs =>
    split
    · next hill =>
      rw [hrefused]
      cases hk : t.kind <;> simp_all [Token.Kind.isIllegal, Token.Kind.keyword?]
    · split
      · next hf =>
        rw [hpassed]
        cases hk : t.kind with
        | keyword k => simp_all [Token.Kind.keyword?, Reading.passesStray]
        | _ => simp [hk, Token.Kind.keyword?] at hf
      · next hf =>
        rw [hrefused]
        cases hk : t.kind with
        | keyword k => simp_all [Token.Kind.keyword?, Reading.passesStray]
        | _ => simp [Token.Kind.keyword?]

/-! ### Documents that break off -/

/-- The text has two tokens: a keyword at which the reader passes over the statement, and one that
breaks off. -/
def TokenStream.IsOverlooked (s : TokenStream) : Prop :=
  ∃ t u, s.tokens = [t, u] ∧ u.kind = .unterminated ∧ t.keyword?.any Reading.passesStray

/-- Of two tokens in all, the second a stray character, some statement is refused unless all of them
are passed over at the first. -/
theorem TokenStream.exists_fails_stray_iff {t u : Token} {stop : Token} (hu : u.kind = .stray) :
    (∃ a ∈ attempts ⟨[t, u], stop⟩, a.Fails) ↔ ¬ t.keyword?.any Reading.passesStray := by
  have hone : attempts ⟨[u], stop⟩ = [.ofPortion (.statement [u] stop)] := by
    rw [attempts, portions_of_isBody (by simp [hu]) (by simp [Token.isBody, hu])]
    rfl
  have hfails : (Attempt.ofPortion (.statement [u] stop)).Fails :=
    Attempt.fails_of_isIllegal stop (by rw [hu]; rfl)
  by_cases hm : t.kind = .metaCommand
  · have : attempts ⟨[t, u], stop⟩ = .ofPortion (.metaCommand t) :: attempts ⟨[u], stop⟩ := by
      rw [attempts, portions_metaCommand hm]
      rfl
    simp [this, hone, hfails, Token.keyword?, Token.Kind.keyword?, hm]
  · by_cases hs : t.kind = .semicolon
    · have : attempts ⟨[t, u], stop⟩ = .ofPortion (.statement [] t) :: attempts ⟨[u], stop⟩ := by
        have hp := @portions_semicolon [] t [u] stop (by simp) (by simp) hs
        rw [List.nil_append] at hp
        rw [attempts, hp]
        rfl
      simp [this, hone, hfails, Token.keyword?, Token.Kind.keyword?, hs]
    · have : attempts ⟨[t, u], stop⟩ = [.ofPortion (.statement [t, u] stop)] := by
        rw [attempts, portions_of_isBody hm (by simp [Token.isBody, hs, hu])]
        rfl
      simp only [this, List.mem_singleton, exists_eq_left]
      exact Attempt.fails_stray_iff stop hu

namespace Document

theorem isClean_iff {d : Document} : d.isClean ↔ ¬ ∃ a ∈ d.attempts, a.Fails := by
  have herror : ∀ a : Attempt, a.error? d.name = none ↔ ¬ a.Fails := by
    intro a
    unfold Attempt.error? Attempt.Fails
    split <;> simp_all
  simp [isClean, errors, List.isEmpty_iff, herror]

/-- A document that breaks off has an error unless it is overlooked. -/
theorem isClean_iff_isOverlooked {text : String} (name : String)
    (h : (TokenStream.ofText text).isTruncated) :
    (ofText name text).isClean ↔ (TokenStream.ofText text).IsOverlooked := by
  obtain ⟨u, hu, hk⟩ : ∃ u, (TokenStream.ofText text).tokens.getLast? = some u ∧
      u.kind = .unterminated := by
    rw [TokenStream.isTruncated, Option.any_eq_true] at h
    simpa using h
  generalize hs : TokenStream.ofText text = s at *
  have hattempts : (ofText name text).attempts = s.primed.attempts := by rw [ofText_eq, hs]
  rw [isClean_iff, hattempts]
  by_cases htwo : ∃ t, s.tokens = [t, u]
  · obtain ⟨t, ht⟩ := htwo
    have hprimed : s.primed = ⟨[t, { u with kind := .stray }], s.stop⟩ := by
      simp [TokenStream.primed, ht, hk]
    rw [hprimed, TokenStream.exists_fails_stray_iff rfl, Bool.not_eq_true, Bool.not_eq_false]
    constructor
    · intro hp
      exact ⟨t, u, ht, hk, hp⟩
    · rintro ⟨t', u', ht', -, hp⟩
      rw [ht, List.cons.injEq] at ht'
      rwa [ht'.1]
  · have hprimed : s.primed = s := by
      unfold TokenStream.primed
      split
      · next t v hts =>
        rw [hts] at hu
        exact absurd ⟨t, by rw [hts]; simpa using hu⟩ htwo
      · rfl
    obtain ⟨body, stop, hm, hb⟩ := TokenStream.exists_mem_portions s.stop hu hk
    have hfails : ∃ a ∈ s.primed.attempts, a.Fails :=
      ⟨_, by rw [hprimed]; exact List.mem_map_of_mem hm, Attempt.fails_of_getLast? stop hb hk⟩
    have hnot : ¬ s.IsOverlooked := by
      rintro ⟨t, v, hts, -⟩
      exact htwo ⟨t, by rw [hts] at hu ⊢; simpa using hu⟩
    exact iff_of_false (fun hc => hc hfails) hnot

end Document

theorem Comparison.exists_patch_eq_ok {c : Comparison} : (∃ p, c.patch = .ok p) ↔ c.isClean := by
  rw [patch]
  split <;> simp_all

/-- **A document that breaks off is refused**: it has an error and is not compared with any document,
except that it is read like one without statements where it is overlooked. -/
theorem refused_of_isTruncated {text : String} (name : String)
    (h : (TokenStream.ofText text).isTruncated) :
    ((Document.ofText name text).errors = [] ↔ (TokenStream.ofText text).IsOverlooked) ∧
      ∀ other : Document,
        ((∃ p, Comparison.patch ⟨.ofText name text, other⟩ = .ok p) ↔
          (TokenStream.ofText text).IsOverlooked ∧ other.isClean) ∧
        ((∃ p, Comparison.patch ⟨other, .ofText name text⟩ = .ok p) ↔
          other.isClean ∧ (TokenStream.ofText text).IsOverlooked) := by
  have hclean := Document.isClean_iff_isOverlooked name h
  refine ⟨?_, fun other => ⟨?_, ?_⟩⟩
  · rw [← hclean, Document.isClean, List.isEmpty_iff]
  · rw [Comparison.exists_patch_eq_ok, Comparison.isClean, Bool.and_eq_true, hclean]
  · rw [Comparison.exists_patch_eq_ok, Comparison.isClean, Bool.and_eq_true, hclean]

/-- A string behind `GRANT` that never ends is overlooked. -/
theorem accepted_grant_string : (TokenStream.ofText "GRANT 'abc").isTruncated ∧
    (Document.ofText "input.sql" "GRANT 'abc").errors = [] :=
  ⟨by decide +kernel, (refused_of_isTruncated "input.sql" (by decide +kernel)).1.2
    ⟨⟨.keyword .GRANT, "GRANT", 1⟩, ⟨.unterminated, "'abc", 1⟩, by decide +kernel, rfl, rfl⟩⟩

end SchemaPatch
