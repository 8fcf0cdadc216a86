import Mathlib.Logic.Function.Basic
import SchemaPatch.Proofs.Catalog.Keyed

/-!
# Runs without idle steps

`Leads run silent xs s t` says that the steps `xs`, run one after the other, lead from the state `s`
to `t`, and that each of them changes the state it is run in, except those that are silent.

A state often is a function of names, and steps change it at one name each. Then steps for different
names do not disturb each other (`Leads.keyed`), and a run that drops, changes and adds what stands
under the names of two keyed lists leads from the one to the other (`Leads.passes`).
-/

namespace SchemaPatch

/-- The steps lead from one state to another, and each that is not silent changes the state. -/
inductive Leads {τ σ : Type} (run : τ → σ → σ) (silent : τ → Prop) : List τ → σ → σ → Prop where
  /-- Without steps the state stays. -/
  | nil (s : σ) : Leads run silent [] s s
  /-- A first step and a run from where it leads. -/
  | cons {x : τ} {xs : List τ} {s t : σ} : silent x ∨ run x s ≠ s → Leads run silent xs (run x s) t →
      Leads run silent (x :: xs) s t

namespace Leads

variable {τ σ : Type} {run : τ → σ → σ} {silent : τ → Prop} {xs ys : List τ} {s t u : σ}

theorem append (h : Leads run silent xs s t) (h' : Leads run silent ys t u) :
    Leads run silent (xs ++ ys) s u := by
  induction h with
  | nil => exact h'
  | cons hx _ ih => exact .cons hx (ih h')

/-- One step that changes the state. -/
theorem one {x : τ} (hx : run x s = t) (hne : t ≠ s) : Leads run silent [x] s t := by
  subst hx
  exact .cons (.inr hne) (.nil _)

/-- Silent steps that change nothing. -/
theorem of_silent (h : ∀ x ∈ xs, silent x ∧ run x s = s) : Leads run silent xs s s := by
  induction xs with
  | nil => exact .nil s
  | cons x xs ih =>
    obtain ⟨⟨hx, hs⟩, hxs⟩ := List.forall_mem_cons.1 h
    refine .cons (.inl hx) ?_
    rw [hs]
    exact ih hxs

/-- Silent steps that are made of other things and change nothing. -/
theorem silent_map {β : Type} {x : β → τ} (h : ∀ b, silent (x b) ∧ run (x b) s = s) (l : List β) :
    Leads run silent (l.map x) s s := by
  apply of_silent
  intro y hy
  obtain ⟨b, -, rfl⟩ := List.mem_map.1 hy
  exact h b

theorem foldl_eq (h : Leads run silent xs s t) : xs.foldl (fun s x => run x s) s = t := by
  induction h with
  | nil => rfl
  | cons _ _ ih => exact ih

/-- At every place of a run, the next step changes the state unless it is silent. -/
theorem ne_of_eq_append (h : Leads run silent xs s t) {before after : List τ} {x : τ}
    (hxs : xs = before ++ x :: after) (hx : ¬ silent x) :
    run x (before.foldl (fun s x => run x s) s) ≠ before.foldl (fun s x => run x s) s := by
  induction h generalizing before with
  | nil => simp at hxs
  | cons hy _ ih =>
    cases before with
    | nil =>
      obtain ⟨rfl, -⟩ := List.cons.inj hxs
      exact hy.resolve_left hx
    | cons b before =>
      obtain ⟨rfl, hrest⟩ := List.cons.inj hxs
      exact ih hrest

/-! ### Names -/

variable {β γ : Type} (wrap : (String → γ) → σ)

/-- Steps that change a state at one name each, in a list without two entries of one name, change it
at all these names. -/
theorem keyed {l : List (String × β)} (hl : (l.map Prod.fst).Nodup) {steps : String × β → List τ}
    {f g : String → γ}
    (h : ∀ e ∈ l, ∀ f', f' e.1 = f e.1 →
      Leads run silent (steps e) (wrap f') (wrap (Function.update f' e.1 (g e.1)))) :
    Leads run silent (l.flatMap steps) (wrap f)
      (wrap fun k => if k ∈ l.map Prod.fst then g k else f k) := by
  induction l generalizing f with
  | nil => simpa using Leads.nil (wrap f)
  | cons e l ih =>
    rw [List.map_cons, List.nodup_cons] at hl
    obtain ⟨he, hl⟩ := hl
    have hfirst := h e (List.mem_cons_self ..) f rfl
    have hrest := ih hl (f := Function.update f e.1 (g e.1)) fun e' he' f' hf' => by
      refine h e' (List.mem_cons_of_mem _ he') f' ?_
      have hne : e'.1 ≠ e.1 := fun heq => he (heq ▸ List.mem_map_of_mem he')
      rw [hf', Function.update_of_ne hne]
    have hend : (fun k => if k ∈ l.map Prod.fst then g k else Function.update f e.1 (g e.1) k) =
        fun k => if k ∈ (e :: l).map Prod.fst then g k else f k := by
      funext k
      by_cases hk : k = e.1
      · subst hk
        simp [he]
      · simp only [Function.update_of_ne hk, List.map_cons, List.mem_cons, hk, false_or]
    rw [List.flatMap_cons, ← hend]
    exact hfirst.append hrest

/-- Steps for all that a keyed list has. -/
theorem all {m : Keyed β} (hm : m.keys.Nodup) {steps : β → List τ} {f g : String → γ}
    (hnone : ∀ k, m.get? k = none → g k = f k)
    (h : ∀ e ∈ m.entries, ∀ f', f' e.1 = f e.1 →
      Leads run silent (steps e.2) (wrap f') (wrap (Function.update f' e.1 (g e.1)))) :
    Leads run silent (m.values.flatMap steps) (wrap f) (wrap g) := by
  have hkeyed : Leads run silent (m.entries.flatMap fun e => steps e.2) (wrap f)
      (wrap fun k => if k ∈ m.keys then g k else f k) := keyed wrap hm h
  have hend : (fun k => if k ∈ m.keys then g k else f k) = g := by
    funext k
    by_cases hk : k ∈ m.keys
    · exact if_pos hk
    · rw [if_neg hk, hnone k (Keyed.get?_eq_none_iff.2 hk)]
  rw [hend] at hkeyed
  rw [Keyed.values, List.flatMap_map]
  exact hkeyed

/-- Steps for what one keyed list has and another one has not. -/
theorem missing {δ : Type} {m : Keyed β} {m' : Keyed δ} (hm : m.keys.Nodup) {steps : β → List τ}
    {f g : String → γ}
    (h : ∀ e ∈ m.entries, e.1 ∉ m'.keys → ∀ f', f' e.1 = f e.1 →
      Leads run silent (steps e.2) (wrap f') (wrap (Function.update f' e.1 (g e.1)))) :
    Leads run silent ((m.missingFrom m').flatMap steps) (wrap f)
      (wrap fun k => if k ∈ m.keys ∧ k ∉ m'.keys then g k else f k) := by
  let l := m.entries.filter fun e => !m'.contains e.1
  have hl : (l.map Prod.fst).Nodup := hm.sublist (List.filter_sublist.map _)
  have hrun : Leads run silent (l.flatMap fun e => steps e.2) (wrap f)
      (wrap fun k => if k ∈ l.map Prod.fst then g k else f k) := by
    apply keyed wrap hl
    intro e he
    obtain ⟨hin, hout⟩ := List.mem_filter.1 he
    exact h e hin (Keyed.contains_eq_false_iff.1 (by simpa using hout))
  simp only [l, Keyed.mem_missing_iff] at hrun
  rw [Keyed.missingFrom, List.flatMap_map]
  exact hrun

/-- Steps for what two keyed lists have under one name. -/
theorem paired {m m' : Keyed β} (hm : m.keys.Nodup) {steps : β × β → List τ} {f g : String → γ}
    (hnone : ∀ k, m'.get? k = none → g k = f k)
    (h : ∀ e ∈ m.entries, ∀ b, m'.get? e.1 = some b → ∀ f', f' e.1 = f e.1 →
      Leads run silent (steps (e.2, b)) (wrap f') (wrap (Function.update f' e.1 (g e.1)))) :
    Leads run silent ((m.pairedWith m').flatMap steps) (wrap f)
      (wrap fun k => if k ∈ m.keys then g k else f k) := by
  have hsteps : (m.pairedWith m').flatMap steps = m.entries.flatMap fun e =>
      ((m'.get? e.1).map fun b => steps (e.2, b)).getD [] := by
    rw [Keyed.pairedWith]
    induction m.entries with
    | nil => rfl
    | cons e l ih =>
      rw [List.flatMap_cons, ← ih]
      cases hb : m'.get? e.1 <;> simp [hb]
  rw [hsteps]
  apply keyed wrap hm
  intro e he f' hf'
  cases hb : m'.get? e.1 with
  | none =>
    rw [hnone e.1 hb, ← hf', Function.update_eq_self]
    exact .nil _
  | some b => exact h e he b hb f' hf'

/-- What is dropped, changed and added under the names of two keyed lists leads from the one to the
other. -/
theorem passes (view : Option β → γ) (drop : β → List τ)
    (alter : β × β → List τ) (add : β → List τ) {source desired : Keyed β}
    (hs : source.keys.Nodup) (hd : desired.keys.Nodup)
    (hdrop : ∀ e ∈ source.entries, ∀ f, f e.1 = view (some e.2) →
      Leads run silent (drop e.2) (wrap f) (wrap (Function.update f e.1 (view none))))
    (halter : ∀ e ∈ source.entries, ∀ b, (e.1, b) ∈ desired.entries → ∀ f, f e.1 = view (some e.2) →
      Leads run silent (alter (e.2, b)) (wrap f) (wrap (Function.update f e.1 (view (some b)))))
    (hadd : ∀ e ∈ desired.entries, ∀ f, f e.1 = view none →
      Leads run silent (add e.2) (wrap f) (wrap (Function.update f e.1 (view (some e.2))))) :
    Leads run silent
      ((source.missingFrom desired).flatMap drop ++ (source.pairedWith desired).flatMap alter ++
        (desired.missingFrom source).flatMap add)
      (wrap fun k => view (source.get? k)) (wrap fun k => view (desired.get? k)) := by
  -- All three passes set what they change to what it is to be in the end.
  let f := fun k => view (source.get? k)
  let g := fun k => view (desired.get? k)
  let f₁ := fun k => if k ∈ source.keys ∧ k ∉ desired.keys then g k else f k
  let f₂ := fun k => if k ∈ source.keys then g k else f₁ k
  let f₃ := fun k => if k ∈ desired.keys ∧ k ∉ source.keys then g k else f₂ k
  have hnone : ∀ {k}, k ∉ source.keys → f k = view none := fun hk =>
    congrArg view (Keyed.get?_eq_none_iff.2 hk)
  have hnone' : ∀ {k}, k ∉ desired.keys → g k = view none := fun hk =>
    congrArg view (Keyed.get?_eq_none_iff.2 hk)
  have hsome : ∀ e ∈ source.entries, f e.1 = view (some e.2) := fun e he =>
    congrArg view (Keyed.get?_of_mem hs he)
  have hsome' : ∀ e ∈ desired.entries, g e.1 = view (some e.2) := fun e he =>
    congrArg view (Keyed.get?_of_mem hd he)
  have hdropped : Leads run silent ((source.missingFrom desired).flatMap drop) (wrap f) (wrap f₁) :=
    missing wrap hs fun e he hout f' hf' => by
      rw [hnone' hout]
      exact hdrop e he f' (hf'.trans (hsome e he))
  have haltered : Leads run silent ((source.pairedWith desired).flatMap alter) (wrap f₁) (wrap f₂) := by
    refine paired wrap hs (fun k hk => ?_) fun e he b hb f' hf' => ?_
    · have hout := Keyed.get?_eq_none_iff.1 hk
      by_cases hin : k ∈ source.keys
      · exact (if_pos ⟨hin, hout⟩).symm
      · rw [hnone' hout, ← hnone hin]
        exact (if_neg fun h => hin h.1).symm
    · have hmem := Keyed.mem_of_get? hb
      have hf₁ : f₁ e.1 = f e.1 := if_neg fun h => h.2 (List.mem_map.2 ⟨_, hmem, rfl⟩)
      rw [show g e.1 = view (some b) from hsome' _ hmem]
      exact halter e he b hmem f' (hf'.trans (hf₁.trans (hsome e he)))
  have hadded : Leads run silent ((desired.missingFrom source).flatMap add) (wrap f₂) (wrap f₃) :=
    missing wrap hd fun e he hout f' hf' => by
      have hf₂ : f₂ e.1 = f e.1 := (if_neg hout).trans (if_neg fun h => hout h.1)
      rw [hsome' e he]
      exact hadd e he f' (hf'.trans (hf₂.trans (hnone hout)))
  have hend : f₃ = g := by
    funext k
    by_cases hs' : k ∈ source.keys
    · exact (if_neg fun h => h.2 hs').trans (if_pos hs')
    · by_cases hd' : k ∈ desired.keys
      · exact if_pos ⟨hd', hs'⟩
      · rw [hnone' hd', ← hnone hs']
        exact (if_neg fun h => hd' h.1).trans ((if_neg hs').trans (if_neg fun h => hs' h.1))
  show Leads run silent _ (wrap f) (wrap g)
  rw [← hend]
  exact (hdropped.append haltered).append hadded

end Leads

end SchemaPatch
