import SchemaPatch.Document.Basic

/-!
# How documents are cut into portions

What the first portion of a stream can be (`TokenStream.portion_cases`), and what the portions of a
stream are if the first one is known. In all, the portions are the tokens in order
(`TokenStream.tokens_portions`), cut behind each semicolon and nowhere else but behind a command to the
terminal client (`TokenStream.cut_of_mem_portions`).
-/

namespace SchemaPatch

/-- The tokens of a portion, from the first one to the one that ends it. -/
def Portion.tokens : Portion → List Token
  | metaCommand t => [t]
  | statement body stop => body ++ [stop]

/-- A portion is cut where it ends in a document that ends with the token `stop`. -/
inductive Portion.Cut (stop : Token) : Portion → Prop where
  /-- A command to the terminal client is a portion of its own. -/
  | metaCommand {t : Token} : t.kind = .metaCommand → Cut stop (.metaCommand t)
  /-- A statement begins with no such command, and goes on to its first semicolon, or to the end of the
  document if there is none. -/
  | statement {body : List Token} {last : Token} : (∀ t ∈ body.head?, t.kind ≠ .metaCommand) →
      (∀ t ∈ body, t.kind ≠ .semicolon) → last.kind = .semicolon ∨ last = stop →
      Cut stop (.statement body last)

/-- A semicolon is found in a portion only as its last token. -/
theorem Portion.Cut.kind_ne_semicolon {stop : Token} {p : Portion} (h : p.Cut stop) :
    ∀ t ∈ p.tokens.dropLast, t.kind ≠ .semicolon := by
  cases h with
  | metaCommand _ => simp [tokens]
  | statement _ hbody _ => simpa [tokens] using hbody

namespace TokenStream

/-- What stops the tokens of a statement is a semicolon. -/
theorem kind_of_dropWhile_isBody {ts rest : List Token} {t : Token}
    (h : ts.dropWhile Token.isBody = t :: rest) : t.kind = .semicolon := by
  have hfirst := List.head?_dropWhile_not Token.isBody ts
  simpa [h, Token.isBody] using hfirst

/-- The first portion of a stream is a command to the terminal client, the tokens before the first
semicolon, or all that is left if there is no semicolon. -/
theorem portion_cases (t : Token) (ts : List Token) (stop : Token) :
    (t.kind = .metaCommand ∧ portion ⟨t :: ts, stop⟩ = (.metaCommand t, ⟨ts, stop⟩)) ∨
    (∃ body semicolon rest, t :: ts = body ++ semicolon :: rest ∧ semicolon.kind = .semicolon ∧
      portion ⟨t :: ts, stop⟩ = (.statement body semicolon, ⟨rest, stop⟩)) ∨
    (portion ⟨t :: ts, stop⟩ = (.statement (t :: ts) stop, ⟨[], stop⟩)) := by
  unfold portion
  dsimp only
  split
  · next hm => exact .inl ⟨hm, rfl⟩
  · split
    · next semicolon rest hd =>
      refine .inr (.inl ⟨_, semicolon, rest, ?_, kind_of_dropWhile_isBody hd, rfl⟩)
      rw [← hd, List.takeWhile_append_dropWhile]
    · exact .inr (.inr rfl)

theorem portion_metaCommand {t : Token} {ts : List Token} {stop : Token} (hm : t.kind = .metaCommand) :
    portion ⟨t :: ts, stop⟩ = (.metaCommand t, ⟨ts, stop⟩) := by
  simp [portion, hm]

theorem portion_of_isBody {ts : List Token} {stop : Token}
    (hm : ∀ t ∈ ts.head?, t.kind ≠ .metaCommand) (hb : ∀ x ∈ ts, x.isBody) :
    portion ⟨ts, stop⟩ = (.statement ts stop, ⟨[], stop⟩) := by
  cases ts with
  | nil => rfl
  | cons t ts =>
    have hm' : t.kind ≠ .metaCommand := hm t rfl
    have hdrop : (t :: ts ++ []).dropWhile Token.isBody = [] := List.dropWhile_append_of_pos hb
    rw [List.append_nil] at hdrop
    simp only [portion, if_neg hm', hdrop]

theorem portion_semicolon {body : List Token} {semicolon : Token} (rest : List Token) (stop : Token)
    (hm : ∀ t ∈ body.head?, t.kind ≠ .metaCommand) (hb : ∀ x ∈ body, x.isBody)
    (hs : semicolon.kind = .semicolon) :
    portion ⟨body ++ semicolon :: rest, stop⟩ = (.statement body semicolon, ⟨rest, stop⟩) := by
  have hnot : ¬ semicolon.isBody := by simp [Token.isBody, hs]
  cases body with
  | nil => simp [portion, hs, hnot]
  | cons t ts =>
    have hm' : t.kind ≠ .metaCommand := hm t rfl
    simp only [List.cons_append, portion, if_neg hm']
    rw [← List.cons_append, List.dropWhile_append_of_pos hb, List.takeWhile_append_of_pos hb,
      List.dropWhile_cons_of_neg hnot, List.takeWhile_cons_of_neg hnot, List.append_nil]

@[simp] theorem portions_nil (stop : Token) : portions ⟨[], stop⟩ = [] := by
  rw [portions, dif_pos rfl]

theorem portions_of_ne_nil {s : TokenStream} (h : s.tokens ≠ []) :
    s.portions = s.portion.1 :: s.portion.2.portions := by
  rw [portions, dif_neg h]

theorem portions_cons (t : Token) (ts : List Token) (stop : Token) :
    portions ⟨t :: ts, stop⟩ =
      (portion ⟨t :: ts, stop⟩).1 :: (portion ⟨t :: ts, stop⟩).2.portions :=
  portions_of_ne_nil (List.cons_ne_nil t ts)

/-- Without a semicolon the tokens are one statement, unless a command to the terminal client comes
first. -/
theorem portions_of_isBody {t : Token} {ts : List Token} {stop : Token} (hm : t.kind ≠ .metaCommand)
    (hb : ∀ x ∈ t :: ts, x.isBody) : portions ⟨t :: ts, stop⟩ = [.statement (t :: ts) stop] := by
  have hhead : ∀ u ∈ (t :: ts).head?, u.kind ≠ .metaCommand := by simpa using hm
  rw [portions_cons, portion_of_isBody hhead hb, portions_nil]

/-- A command to the terminal client is a portion of its own. -/
theorem portions_metaCommand {t : Token} {ts : List Token} {stop : Token} (hm : t.kind = .metaCommand) :
    portions ⟨t :: ts, stop⟩ = .metaCommand t :: portions ⟨ts, stop⟩ := by
  rw [portions_cons, portion_metaCommand hm]

/-- The tokens before a semicolon are a statement, unless a command to the terminal client comes
first. -/
theorem portions_semicolon {body : List Token} {semicolon : Token} (rest : List Token) (stop : Token)
    (hm : ∀ t ∈ body.head?, t.kind ≠ .metaCommand) (hb : ∀ x ∈ body, x.isBody)
    (hs : semicolon.kind = .semicolon) : portions ⟨body ++ semicolon :: rest, stop⟩ =
      .statement body semicolon :: portions ⟨rest, stop⟩ := by
  rw [portions_of_ne_nil (by simp), portion_semicolon rest stop hm hb hs]

/-- The portions of a stream are its tokens in order, and the end if a statement goes on to it. -/
theorem tokens_portions (ts : List Token) (stop : Token) :
    (portions ⟨ts, stop⟩).flatMap Portion.tokens = ts ∨
      (portions ⟨ts, stop⟩).flatMap Portion.tokens = ts ++ [stop] := by
  induction hn : ts.length using Nat.strongRecOn generalizing ts with
  | _ n ih =>
    subst hn
    cases ts with
    | nil => simp
    | cons t ts =>
      rw [portions_cons, List.flatMap_cons]
      rcases portion_cases t ts stop with ⟨-, hp⟩ | ⟨body, semicolon, rest, happ, -, hp⟩ | hp
      · rw [hp]
        exact (ih _ (Nat.lt_succ_self _) ts rfl).imp (congrArg (t :: ·)) (congrArg (t :: ·))
      · have hlt : rest.length < (t :: ts).length := by
          rw [happ, List.length_append, List.length_cons]
          omega
        rw [hp, happ, List.append_cons, List.append_assoc (body ++ [semicolon])]
        exact (ih _ hlt rest rfl).imp (congrArg (body ++ [semicolon] ++ ·))
          (congrArg (body ++ [semicolon] ++ ·))
      · rw [hp]
        exact .inr (by simp [Portion.tokens])

theorem cut_portion (t : Token) (ts : List Token) (stop : Token) :
    (portion ⟨t :: ts, stop⟩).1.Cut stop := by
  have hbody : ∀ u ∈ (t :: ts).takeWhile Token.isBody, u.kind ≠ .semicolon := fun u hu => by
    simpa [Token.isBody] using List.all_eq_true.1 List.all_takeWhile u hu
  unfold portion
  dsimp only
  split
  · next hm => exact .metaCommand hm
  · next hm =>
    split
    · next semicolon rest hd =>
      refine .statement (fun u hu => ?_) hbody (.inl (kind_of_dropWhile_isBody hd))
      rw [List.takeWhile_cons] at hu
      split at hu <;> cases hu
      exact hm
    · next hd =>
      have hall := List.takeWhile_append_dropWhile (p := Token.isBody) (l := t :: ts)
      rw [hd, List.append_nil] at hall
      refine .statement (fun u hu => ?_) (hall ▸ hbody) (.inr rfl)
      cases hu
      exact hm

theorem stop_portion (s : TokenStream) : s.portion.2.stop = s.stop := by
  unfold portion
  split
  · split
    · rfl
    · split <;> rfl
  · rfl

/-- Every portion of a stream is cut where it ends. -/
theorem cut_of_mem_portions (s : TokenStream) : ∀ p ∈ s.portions, p.Cut s.stop := by
  induction hn : s.tokens.length using Nat.strongRecOn generalizing s with
  | _ n ih =>
    subst hn
    rw [portions]
    split
    · simp
    · next hne =>
      refine List.forall_mem_cons.2 ⟨?_, ?_⟩
      · obtain ⟨ts, stop⟩ := s
        cases ts with
        | nil => exact absurd rfl hne
        | cons t ts => exact cut_portion t ts stop
      · rw [← s.stop_portion]
        exact ih _ (length_portion_lt hne) _ rfl

/-- Every portion is cut where it ends, and holds no semicolon before its end. -/
theorem ends_of_mem_portions (s : TokenStream) : ∀ p ∈ s.portions,
    p.Cut s.stop ∧ ∀ t ∈ p.tokens.dropLast, t.kind ≠ .semicolon := fun p hp =>
  ⟨s.cut_of_mem_portions p hp, (s.cut_of_mem_portions p hp).kind_ne_semicolon⟩

end TokenStream

end SchemaPatch
