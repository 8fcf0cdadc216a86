import SchemaPatch.Proofs.Token.Gap

/-!
# Blanks and comments

What is passed over between tokens, said without a scanner: blanks, line comments up to the end of
their lines, and block comments, in which each one that is opened is closed (`Gap.ClosesComment`). A
gap is made of these, and where one does not come to an end nothing closes the comment it stops at
(`Gap.sound_read`).
-/

namespace SchemaPatch.Gap

/-- A text closes a block comment with its last two characters, and not before. -/
inductive ClosesComment : List Char → Prop where
  /-- The comment is closed. -/
  | close : ClosesComment ['*', '/']
  /-- A comment inside it is opened and closed, and then the comment itself is. -/
  | comment {inner rest : List Char} : ClosesComment inner → ClosesComment rest →
      ClosesComment ('/' :: '*' :: (inner ++ rest))
  /-- A character with which no comment is opened or closed comes before the rest. -/
  | char {c : Char} {rest : List Char} : ¬ (c = '/' ∧ rest.head? = some '*') →
      ¬ (c = '*' ∧ rest.head? = some '/') → ClosesComment rest → ClosesComment (c :: rest)

/-- Blanks and comments in front of a text. -/
inductive Trivia : List Char → List Char → Prop where
  /-- There are none. -/
  | nil {rest : List Char} : Trivia [] rest
  /-- A blank comes first. -/
  | blank {c : Char} {trivia rest : List Char} : isBlank c → Trivia trivia rest →
      Trivia (c :: trivia) rest
  /-- A line comment comes first, which goes on to the end of its line. -/
  | lineComment {line trivia rest : List Char} : '\n' ∉ line →
      (∀ c, (trivia ++ rest).head? = some c → c = '\n') → Trivia trivia rest →
      Trivia ('-' :: '-' :: (line ++ trivia)) rest
  /-- A block comment comes first. -/
  | blockComment {comment trivia rest : List Char} : ClosesComment comment → Trivia trivia rest →
      Trivia ('/' :: '*' :: (comment ++ trivia)) rest

/-- A text begins with a block comment that is never closed. -/
def Unclosed (cs : List Char) : Prop :=
  ∃ body, cs = '/' :: '*' :: body ∧ ∀ comment rest, body = comment ++ rest → ¬ ClosesComment comment

/-- A gap is made of blanks and comments, and if it does not come to an end, it is because a comment
is never closed. -/
def Sound : Gap → Prop
  | closed trivia rest => Trivia trivia rest
  | unclosed trivia comment => Trivia trivia comment ∧ Unclosed comment

/-! ### Block comments -/

/-- Takes what is left of block comments, of which none may be left. -/
def blockComments : Nat → List Char → Option Split
  | 0, cs => some ([], cs)
  | depth + 1, cs => blockComment (depth + 1) cs

theorem blockComment_char {c : Char} {cs : List Char} (hopens : ¬ (c = '/' ∧ cs.head? = some '*'))
    (hcloses : ¬ (c = '*' ∧ cs.head? = some '/')) (depth : Nat) :
    blockComment depth (c :: cs) = (blockComment depth cs).map (.after [c]) := by
  rw [blockComment]
  · rintro cs' rfl rfl
    exact hopens ⟨rfl, rfl⟩
  · rintro cs' rfl rfl
    exact hcloses ⟨rfl, rfl⟩

/-- A text that closes a comment is taken, and then what is left of the comments around it. -/
theorem ClosesComment.blockComment_append {comment : List Char} (h : ClosesComment comment)
    (depth : Nat) (cs : List Char) : blockComment (depth + 1) (comment ++ cs) =
      (blockComments depth cs).map (.after comment) := by
  induction h generalizing depth cs with
  | close =>
    cases depth with
    | zero => rfl
    | succ depth => rfl
  | @comment inner rest _ _ ihinner ihrest =>
    rw [List.cons_append, List.cons_append, List.append_assoc, blockComment, ihinner, blockComments,
      ihrest, Option.map_map, Option.map_map]
    congr 1
    funext s
    simp [Split.after]
  | @char c rest hopens hcloses hrest ih =>
    have hhead : (rest ++ cs).head? = rest.head? := by
      cases hrest <;> rfl
    rw [List.cons_append, blockComment_char (by rwa [hhead]) (by rwa [hhead]), ih, Option.map_map]
    congr 1

/-- Where the rest of a block comment is taken, some text closes the comment. -/
theorem exists_closesComment {depth : Nat} {cs : List Char} {s : Split}
    (h : blockComment (depth + 1) cs = some s) :
    ∃ comment rest, cs = comment ++ rest ∧ ClosesComment comment := by
  induction hn : cs.length using Nat.strongRecOn generalizing depth cs s with
  | _ n ih =>
    subst hn
    rw [blockComment.eq_def] at h
    split at h
    · next cs =>
      obtain ⟨s', hs', -⟩ := Option.map_eq_some_iff.1 h
      obtain ⟨inner, behind, rfl, hinner⟩ := ih _ (by simp only [List.length_cons]; omega) hs' rfl
      rw [hinner.blockComment_append, blockComments] at hs'
      obtain ⟨s'', hs'', -⟩ := Option.map_eq_some_iff.1 hs'
      have hlt : behind.length < ('/' :: '*' :: (inner ++ behind)).length := by
        simp only [List.length_cons, List.length_append]
        omega
      obtain ⟨comment, rest, rfl, hcomment⟩ := ih _ hlt hs'' rfl
      exact ⟨'/' :: '*' :: (inner ++ comment), rest, by simp, .comment hinner hcomment⟩
    · next cs => exact ⟨['*', '/'], cs, rfl, .close⟩
    · next c cs hopens hcloses =>
      obtain ⟨s', hs', -⟩ := Option.map_eq_some_iff.1 h
      obtain ⟨comment, rest, rfl, hcomment⟩ := ih _ (by simp) hs' rfl
      have hhead : ∀ {d : Char}, comment.head? = some d → ∃ cs', comment ++ rest = d :: cs' := by
        intro d hd
        obtain ⟨cs', rfl⟩ := List.head?_eq_some_iff.1 hd
        exact ⟨_, rfl⟩
      refine ⟨c :: comment, rest, rfl, .char ?_ ?_ hcomment⟩
      · rintro ⟨rfl, hd⟩
        obtain ⟨cs', hcs'⟩ := hhead hd
        exact hopens cs' rfl hcs'
      · rintro ⟨rfl, hd⟩
        obtain ⟨cs', hcs'⟩ := hhead hd
        exact hcloses cs' rfl hcs'
    · cases h

/-- The rest of a block comment is what closes it. -/
theorem blockComment_eq_some_iff {body comment rest : List Char} :
    blockComment 1 body = some (comment, rest) ↔ body = comment ++ rest ∧ ClosesComment comment := by
  have hone : ∀ {comment : List Char}, ClosesComment comment → ∀ rest,
      blockComment 1 (comment ++ rest) = some (comment, rest) := by
    intro comment h rest
    simpa [blockComments, Split.after] using h.blockComment_append 0 rest
  constructor
  · intro h
    obtain ⟨comment', rest', rfl, hcloses⟩ := exists_closesComment h
    rw [hone hcloses rest'] at h
    cases h
    exact ⟨rfl, hcloses⟩
  · rintro ⟨rfl, hcloses⟩
    exact hone hcloses rest

/-! ### Gaps -/

theorem Trivia.blanks {blanks trivia rest : List Char} (hblanks : ∀ c ∈ blanks, isBlank c)
    (h : Trivia trivia rest) : Trivia (blanks ++ trivia) rest := by
  induction blanks with
  | nil => exact h
  | cons c blanks ih =>
    obtain ⟨hc, hblanks⟩ := List.forall_mem_cons.1 hblanks
    exact .blank hc (ih hblanks)

/-- What may stand in front of a gap. -/
theorem Sound.after {g : Gap} (h : g.Sound) {front : List Char}
    (hfront : ∀ {trivia rest}, trivia ++ rest = g.text → Trivia trivia rest →
      Trivia (front ++ trivia) rest) : (g.after front).Sound := by
  cases g with
  | closed trivia rest => exact hfront rfl h
  | unclosed trivia comment => exact ⟨hfront rfl h.1, h.2⟩

/-- **A gap is made of blanks and comments, and it does not come to an end only if a comment is never
closed.** -/
theorem sound_read (cs : List Char) : (read cs).Sound := by
  have hblanks : ∀ {cs : List Char}, ∀ c ∈ cs.takeWhile isBlank, isBlank c := fun {cs} c hc =>
    List.all_eq_true.1 (List.all_takeWhile) c hc
  have honly : ∀ {cs rest : List Char}, Trivia (cs.takeWhile isBlank) rest := fun {cs rest} => by
    simpa using Trivia.blanks (@hblanks cs) (.nil : Trivia [] rest)
  fun_induction read cs with
  | case1 cs blanks line h ih =>
    refine ih.after fun {trivia rest} htext htrivia => ?_
    rw [List.append_assoc]
    refine .blanks hblanks (.lineComment ?_ ?_ htrivia)
    · intro hmem
      simpa [inLine] using List.all_eq_true.1 (List.all_takeWhile (p := inLine) (l := line)) _ hmem
    · intro c hc
      rw [htext, text_read] at hc
      have hnot := List.head?_dropWhile_not inLine line
      rw [hc] at hnot
      simpa [inLine] using hnot
  | case2 cs blanks body h comment rest hb ih =>
    refine ih.after fun {trivia rest} htext htrivia => ?_
    rw [List.append_assoc]
    exact .blanks hblanks (.blockComment (blockComment_eq_some_iff.1 hb).2 htrivia)
  | case3 cs blanks body h hb =>
    refine ⟨?_, body, rfl, fun comment rest hbody hcloses => ?_⟩
    · exact honly
    · rw [blockComment_eq_some_iff.2 ⟨hbody, hcloses⟩] at hb
      cases hb
  | case4 cs blanks _ _ =>
    show Trivia blanks (cs.dropWhile isBlank)
    exact honly

end SchemaPatch.Gap
