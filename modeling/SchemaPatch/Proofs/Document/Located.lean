import SchemaPatch.Proofs.Document.Alike
import SchemaPatch.Proofs.Document.Reader
import SchemaPatch.Proofs.Token.Lines

/-!
# Where errors are found

The portions of a document are its tokens cut up, and an error is found at a token of the portion that
is refused: between its first token and the one that ends it. So an error is never put down to another
statement, though the end of a statement is seen before the statement is judged, and errors come in
the order of their lines (`Document.errors_located`).
-/

namespace SchemaPatch

/-- The error of a portion, if it is refused. -/
def Portion.error? (name : String) (p : Portion) : Option SyntaxError :=
  (Attempt.ofPortion p).error? name

/-- Tokens of the same text on the same line. -/
def Token.SamePlace (t u : Token) : Prop := t.literal = u.literal ∧ t.line = u.line

theorem Token.SamePlace.refl (t : Token) : t.SamePlace t := ⟨rfl, rfl⟩

/-! ### What is found is of the portion -/

/-- A statement is refused for what shows at one of its tokens. -/
theorem Attempt.mem_tokens_of_failed {p : Portion} {cause : Fault.Cause} {found : Token}
    (h : (ofPortion p).outcome = .failed cause found) : found ∈ p.tokens := by
  cases p with
  | metaCommand t => cases h
  | statement body stop =>
    -- A token is followed through the rules as related to itself, if it is one of the statement.
    have hsame : (ofPortion (.statement body stop)).outcome.Alike
        (fun t u => t = u ∧ t ∈ body ++ [stop]) (ofPortion (.statement body stop)).outcome := by
      refine outcome_alike (R := fun t u => t = u ∧ t ∈ body) ?_ ?_ (.statement ?_ ?_ fun _ => rfl)
      · rintro t _ ⟨rfl, -⟩
        rfl
      · rintro t _ ⟨rfl, ht⟩
        exact ⟨rfl, List.mem_append_left _ ht⟩
      · exact List.forall₂_same.2 fun t ht => ⟨rfl, ht⟩
      · exact ⟨rfl, List.mem_append_right _ (List.mem_singleton_self stop)⟩
    rw [h] at hsame
    cases hsame with
    | failed cause hfound => exact hfound.2

theorem Portion.error?_located {name : String} {p : Portion} {e : SyntaxError}
    (h : e ∈ p.error? name) : e.input = name ∧ ∃ t ∈ p.tokens, e.line = t.line := by
  unfold error? Attempt.error? at h
  split at h
  · next cause found hfailed =>
    cases h
    exact ⟨rfl, found, Attempt.mem_tokens_of_failed hfailed, rfl⟩
  · cases h

/-! ### Portions are the tokens cut up -/

namespace TokenStream

/-- Tokens that a reader takes for others are where they were. -/
theorem primed_samePlace (s : TokenStream) :
    List.Forall₂ Token.SamePlace s.primed.tokens s.tokens ∧ s.primed.stop = s.stop := by
  have hrefl : ∀ ts : List Token, List.Forall₂ Token.SamePlace ts ts := fun ts =>
    List.forall₂_same.2 fun t _ => .refl t
  unfold primed
  split
  · next t u htokens =>
    split
    · rw [htokens]
      exact ⟨.cons (.refl t) (.cons ⟨rfl, rfl⟩ .nil), rfl⟩
    · exact ⟨hrefl _, rfl⟩
  · exact ⟨hrefl _, rfl⟩

/-- The lines that a reader sees come in order. -/
theorem lines_ordered_primed (text : String) :
    ((ofText text).primed.tokens ++ [(ofText text).primed.stop]).Pairwise
      fun t u => t.line ≤ u.line := by
  obtain ⟨htokens, hstop⟩ := (ofText text).primed_samePlace
  have hlines : (ofText text).primed.tokens.map Token.line = (ofText text).tokens.map Token.line :=
    List.forall₂_eq_eq_eq ▸ List.forall₂_map_left_iff.2
      (List.forall₂_map_right_iff.2 (htokens.imp fun _ _ h => h.2))
  have hordered := List.pairwise_map.2 (lines_ordered text)
  rw [List.map_append, ← hlines, ← hstop, ← List.map_append] at hordered
  exact List.pairwise_map.1 hordered

/-- The lines of all portions come in order. -/
theorem lines_ordered_portions (text : String) :
    ((ofText text).primed.portions.flatMap Portion.tokens).Pairwise fun t u => t.line ≤ u.line := by
  have hall := lines_ordered_primed text
  rcases tokens_portions (ofText text).primed.tokens (ofText text).primed.stop with h | h
  · exact h ▸ (List.pairwise_append.1 hall).1
  · exact h ▸ hall

end TokenStream

/-- Each portion that is refused has one error, and no other has any. -/
theorem Document.errors_eq (name text : String) : (ofText name text).errors =
    (TokenStream.ofText text).primed.portions.filterMap (Portion.error? name) := by
  rw [ofText_eq, errors, TokenStream.attempts, List.filterMap_map]
  rfl

/-- **Errors are located and come in order.** The portions of a text are its tokens cut up behind each
semicolon; each portion that is refused has one error and no other has any; the error has the name of
the document and the line of a token of its portion; and so lines never decrease from error to error. -/
theorem Document.errors_located (name text : String) :
    let s := (TokenStream.ofText text).primed
    (List.Forall₂ Token.SamePlace s.tokens (TokenStream.ofText text).tokens ∧
        s.stop = (TokenStream.ofText text).stop) ∧
      (s.portions.flatMap Portion.tokens = s.tokens ∨
        s.portions.flatMap Portion.tokens = s.tokens ++ [s.stop]) ∧
      (∀ p ∈ s.portions, p.Cut s.stop ∧ ∀ t ∈ p.tokens.dropLast, t.kind ≠ .semicolon) ∧
      (ofText name text).errors = s.portions.filterMap (Portion.error? name) ∧
      (∀ p ∈ s.portions, ∀ e ∈ p.error? name, e.input = name ∧ ∃ t ∈ p.tokens, e.line = t.line) ∧
      (ofText name text).errors.Pairwise fun e e' => e.line ≤ e'.line := by
  intro s
  have hcut := TokenStream.tokens_portions s.tokens s.stop
  have hlocated : ∀ p ∈ s.portions, ∀ e ∈ p.error? name,
      e.input = name ∧ ∃ t ∈ p.tokens, e.line = t.line := fun p _ e he => Portion.error?_located he
  refine ⟨(TokenStream.ofText text).primed_samePlace, hcut, s.ends_of_mem_portions,
    errors_eq name text, hlocated, ?_⟩
  -- Of two errors the later one is that of a later portion, all of whose tokens come later.
  have hordered := (List.pairwise_flatMap.1 (TokenStream.lines_ordered_portions text)).2
  rw [errors_eq, List.pairwise_filterMap]
  refine hordered.imp_of_mem fun hp hq hpq e he e' he' => ?_
  obtain ⟨-, t, ht, hline⟩ := hlocated _ hp e he
  obtain ⟨-, u, hu, hline'⟩ := hlocated _ hq e' he'
  rw [hline, hline']
  exact hpq t ht u hu

/-- The first statement breaks off at its semicolon, the second one cannot begin like this. -/
example : (Document.ofText "dump" "CREATE\n;\nDROP").errors.map SyntaxError.line = [2, 3] := by
  decide +kernel

end SchemaPatch
