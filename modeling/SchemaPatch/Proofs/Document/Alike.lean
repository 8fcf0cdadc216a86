import SchemaPatch.Proofs.Document.Portions
import SchemaPatch.Proofs.Grammar.UniformStatement

/-!
# Attempts at related tokens

What comes of a portion depends on the symbols of its tokens: if these are related one by one to
those of another portion, both give the same statement, or are passed over, or are refused for the
same cause at related tokens (`Attempt.outcome_alike`). Related streams are cut into related
portions (`TokenStream.portions_alike`).
-/

namespace SchemaPatch

variable {R Q : Token → Token → Prop}

/-- The same came of statements, with related tokens where they are refused. -/
inductive Outcome.Alike (R : Token → Token → Prop) : Outcome → Outcome → Prop where
  /-- The same statement was read. -/
  | parsed (s : Statement) : Alike R (.parsed s) (.parsed s)
  /-- Both were passed over. -/
  | skipped : Alike R .skipped .skipped
  /-- Both were refused. -/
  | failed (cause : Fault.Cause) {t u : Token} (h : R t u) :
    Alike R (.failed cause t) (.failed cause u)

/-- Portions of related tokens. What ends them counts as one of them where there are no others. -/
inductive Portion.Alike (R Q : Token → Token → Prop) : Portion → Portion → Prop where
  /-- Commands to the terminal client. -/
  | metaCommand {t u : Token} (h : R t u) : Alike R Q (.metaCommand t) (.metaCommand u)
  /-- Statements. -/
  | statement {body body' : List Token} {stop stop' : Token} (h : List.Forall₂ R body body')
    (hstop : Q stop stop') (hempty : body = [] → stop.kind = stop'.kind) :
    Alike R Q (.statement body stop) (.statement body' stop')

/-! ### What comes of a portion -/

theorem forall₂_getLast? {ts us : List Token} (h : List.Forall₂ R ts us) :
    Option.Rel R ts.getLast? us.getLast? := by
  induction h with
  | nil => exact .none
  | @cons t u ts us ht _ ih =>
    rw [List.getLast?_cons, List.getLast?_cons]
    match ts.getLast?, us.getLast?, ih with
    | _, _, .none => exact .some ht
    | _, _, .some hlast => exact .some hlast

namespace Attempt

variable {body body' : List Token} {stop stop' : Token}

theorem failed_alike (hRQ : ∀ t u, R t u → Q t u) (hstop : Q stop stop') {f g : Fault}
    (h : f.Alike R g) : Outcome.Alike Q (.failed f.cause (f.found.getD stop))
      (.failed g.cause (g.found.getD stop')) := by
  cases h with
  | atEnd cause => exact .failed cause hstop
  | atToken cause ht => exact .failed cause (hRQ _ _ ht)

theorem settle_alike (hR : KeepsSymbols R) (hRQ : ∀ t u, R t u → Q t u)
    (hbody : List.Forall₂ R body body') (hstop : Q stop stop')
    {r s : Except Fault (Option (Statement × List Token))}
    (h : Rule.Alike R (Option.Rel (Rule.Leaves R Eq)) r s) :
    (settle body stop r).Alike Q (settle body' stop' s) := by
  cases h with
  | error hf => exact failed_alike hRQ hstop hf
  | ok hread =>
    cases hread with
    | some hread =>
      obtain ⟨rfl, hrest⟩ := hread
      cases hrest with
      | nil => exact .parsed _
      | cons ht hrest =>
        exact failed_alike hRQ hstop (Rule.unexpected_alike hR _ (.cons ht hrest))
    | none =>
      unfold settle
      dsimp only
      match body.getLast?, body'.getLast?, forall₂_getLast? hbody with
      | _, _, .none => exact .skipped
      | _, _, .some ht =>
        dsimp only
        rw [hR.kind ht]
        split
        · exact .failed _ (hRQ _ _ ht)
        · exact .skipped

/-- The same comes of portions of related tokens. -/
theorem outcome_alike (hR : KeepsSymbols R) (hRQ : ∀ t u, R t u → Q t u) {p q : Portion}
    (h : p.Alike R Q q) : (ofPortion p).outcome.Alike Q (ofPortion q).outcome := by
  cases h with
  | metaCommand _ => exact .skipped
  | statement hbody hstop hempty =>
    exact settle_alike hR hRQ hbody hstop (Reading.ofTokens_alike hR hbody hempty)

end Attempt

/-! ### How related streams are cut -/

theorem forall₂_takeWhile {p : Token → Bool} (hp : ∀ t u, R t u → p t = p u) {ts us : List Token}
    (h : List.Forall₂ R ts us) : List.Forall₂ R (ts.takeWhile p) (us.takeWhile p) ∧
      List.Forall₂ R (ts.dropWhile p) (us.dropWhile p) := by
  induction h with
  | nil => exact ⟨.nil, .nil⟩
  | @cons t u ts us ht hrest ih =>
    have htu := hp _ _ ht
    cases hpu : p u with
    | true =>
      rw [hpu] at htu
      simp only [List.takeWhile_cons, List.dropWhile_cons, htu, hpu, if_true]
      exact ⟨.cons ht ih.1, ih.2⟩
    | false =>
      rw [hpu] at htu
      simp only [List.takeWhile_cons, List.dropWhile_cons, htu, hpu, Bool.false_eq_true, if_false]
      exact ⟨.nil, .cons ht hrest⟩

namespace TokenStream

/-- Related streams are cut into related portions. -/
theorem portions_alike (hR : KeepsSymbols R) {ts us : List Token} {stop stop' : Token}
    (h : List.Forall₂ R ts us) (hstop : R stop stop') :
    List.Forall₂ (Portion.Alike R R) (portions ⟨ts, stop⟩) (portions ⟨us, stop'⟩) := by
  induction hn : ts.length using Nat.strongRecOn generalizing ts us with
  | _ n ih =>
    subst hn
    cases h with
    | nil =>
      rw [portions_nil, portions_nil]
      exact .nil
    | @cons t u ts us ht hrest =>
      have hbody : ∀ v w, R v w → v.isBody = w.isBody := fun v w hvw => by
        rw [Token.isBody, Token.isBody, hR.kind hvw]
      obtain ⟨htake, hdrop⟩ := forall₂_takeWhile hbody (.cons ht hrest)
      have hle := (List.dropWhile_sublist Token.isBody (l := t :: ts)).length_le
      rw [portions_cons, portions_cons]
      unfold portion
      dsimp only
      rw [hR.kind ht]
      split
      · exact .cons (.metaCommand ht) (ih _ (Nat.lt_succ_self _) hrest rfl)
      · generalize (t :: ts).dropWhile Token.isBody = ds at hdrop hle ⊢
        generalize (u :: us).dropWhile Token.isBody = es at hdrop ⊢
        cases hdrop with
        | nil =>
          rw [portions_nil, portions_nil]
          exact .cons (.statement (.cons ht hrest) hstop (by simp)) .nil
        | cons hs hmore =>
          exact .cons (.statement htake hs fun _ => hR.kind hs) (ih _ hle hmore rfl)

/-- The same comes of related streams, attempt by attempt. -/
theorem attempts_alike (hR : KeepsSymbols R) {s s' : TokenStream}
    (h : List.Forall₂ R s.tokens s'.tokens) (hstop : R s.stop s'.stop) :
    List.Forall₂ (fun a b : Attempt => a.outcome.Alike R b.outcome) s.attempts s'.attempts := by
  have hportions := portions_alike hR h hstop
  rw [attempts, attempts, List.forall₂_map_left_iff, List.forall₂_map_right_iff]
  exact hportions.imp fun _ _ h => Attempt.outcome_alike hR (fun _ _ h => h) h

end TokenStream

end SchemaPatch
