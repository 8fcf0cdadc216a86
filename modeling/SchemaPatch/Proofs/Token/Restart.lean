import SchemaPatch.Proofs.Token.Literal

/-!
# Lexing starts anew on a new line

A text that does not break off is lexed to the same tokens whatever stands on the lines behind it,
and these are lexed as if nothing stood before them (`Lexer.drain_append`). For blanks and comments
as well as tokens stop at a line feed, unless they are still to be closed: what was closed before
stays closed.
-/

namespace SchemaPatch

/-- A scan that does not take a character stops there, if it has not stopped before. -/
theorem takeWhile_append_cons {p : Char → Bool} {c : Char} (hc : p c = false) (cs rest : List Char) :
    (cs ++ c :: rest).takeWhile p = cs.takeWhile p ∧
      (cs ++ c :: rest).dropWhile p = cs.dropWhile p ++ c :: rest := by
  induction cs with
  | nil => simp [hc]
  | cons d cs ih => cases hd : p d <;> simp [hd, ih]

theorem head?_any_append_cons {p : Char → Bool} {c : Char} (hc : p c = false)
    (cs rest : List Char) : (cs ++ c :: rest).head?.any p = cs.head?.any p := by
  cases cs <;> simp [hc]

namespace Gap

variable {depth : Nat} {cs : List Char} {s : Split}

/-- A block comment ends where it does, whatever follows. -/
theorem blockComment_append (rest : List Char) (h : blockComment depth cs = some s) :
    blockComment depth (cs ++ rest) = some (s.1, s.2 ++ rest) := by
  fun_induction blockComment depth cs generalizing s with
  | case1 depth cs ih =>
    obtain ⟨s', hs, rfl⟩ := Option.map_eq_some_iff.1 h
    simp [blockComment, ih hs, Split.after]
  | case2 depth cs hle =>
    cases h
    simp [blockComment, hle]
  | case3 depth cs hle ih =>
    obtain ⟨s', hs, rfl⟩ := Option.map_eq_some_iff.1 h
    simp [blockComment, hle, ih hs, Split.after]
  | case4 depth c cs hopens hcloses ih =>
    obtain ⟨s', hs, rfl⟩ := Option.map_eq_some_iff.1 h
    cases cs with
    | nil => cases hs
    | cons d cs =>
      have hagain := ih hs
      rw [List.cons_append] at hagain
      rw [List.cons_append, List.cons_append, blockComment, hagain]
      · rfl
      · intro cs' hc hcs
        exact hopens cs hc (by rw [(List.cons.inj hcs).1])
      · intro cs' hc hcs
        exact hcloses cs hc (by rw [(List.cons.inj hcs).1])
  | case5 => cases h

/-- A line feed does not end a block comment. -/
theorem blockComment_append_lineFeed (h : blockComment depth cs = none) :
    blockComment depth (cs ++ ['\n']) = none := by
  fun_induction blockComment depth cs with
  | case1 depth cs ih => simp [blockComment, ih (Option.map_eq_none_iff.1 h)]
  | case2 depth cs hle => cases h
  | case3 depth cs hle ih => simp [blockComment, hle, ih (Option.map_eq_none_iff.1 h)]
  | case4 depth c cs hopens hcloses ih =>
    have hagain := ih (Option.map_eq_none_iff.1 h)
    rw [List.cons_append, blockComment, hagain]
    · rfl
    · rintro cs' hc hcs
      cases cs with
      | nil => cases hcs
      | cons d cs => exact hopens cs hc (by rw [(List.cons.inj hcs).1])
    · rintro cs' hc hcs
      cases cs with
      | nil => cases hcs
      | cons d cs => exact hcloses cs hc (by rw [(List.cons.inj hcs).1])
  | case5 => rfl

theorem not_opensComment_lineFeed (c : Char) : opensComment c '\n' = false := by simp [opensComment]

/-- A gap begins with a blank or a comment, which ends before the next line, or it never ends, or
there is none. -/
theorem read_cases (cs : List Char) :
    (∃ front cs', cs'.length < cs.length ∧ read cs = (read cs').after front ∧
      ∀ rest, read (cs ++ '\n' :: rest) = (read (cs' ++ '\n' :: rest)).after front) ∨
    (∃ comment, read cs = .unclosed [] comment ∧
      read (cs ++ ['\n']) = .unclosed [] (comment ++ ['\n'])) ∨
    (read cs = .closed [] cs ∧ ∀ c ds, cs = c :: ds →
      isBlank c = false ∧ ds.head?.any (opensComment c) = false) := by
  cases cs with
  | nil => exact .inr (.inr ⟨by rw [read_eq]; rfl, fun _ _ h => nomatch h⟩)
  | cons c cs =>
    cases hb : isBlank c with
    | true => exact .inl ⟨[c], cs, Nat.lt_succ_self _, read_blank hb _, fun _ => read_blank hb _⟩
    | false =>
      by_cases hopens : cs.head?.any (opensComment c)
      · obtain ⟨d, hd, ho⟩ := (Option.any_eq_true _ _).1 hopens
        obtain ⟨cs, rfl⟩ := List.head?_eq_some_iff.1 hd
        simp only [opensComment, Bool.or_eq_true, Bool.and_eq_true, beq_iff_eq] at ho
        rcases ho with ⟨rfl, rfl⟩ | ⟨rfl, rfl⟩
        · refine .inl ⟨_, cs.dropWhile inLine, ?_, read_lineComment cs, fun rest => ?_⟩
          · have := (List.dropWhile_sublist inLine (l := cs)).length_le
            simp only [List.length_cons]
            omega
          · obtain ⟨htake, hdrop⟩ := takeWhile_append_cons (p := inLine) (c := '\n') rfl cs rest
            rw [List.cons_append, List.cons_append, read_lineComment, htake, hdrop]
        · rw [read_of_not_isBlank hb, comments]
          cases hbody : blockComment 1 cs with
          | none =>
            refine .inr (.inl ⟨_, rfl, ?_⟩)
            rw [List.cons_append, List.cons_append, read_of_not_isBlank hb, comments,
              blockComment_append_lineFeed hbody]
          | some s =>
            refine .inl ⟨_, s.2, ?_, rfl, fun rest => ?_⟩
            · have := length_blockComment_le hbody
              simp only [List.length_cons]
              omega
            · rw [List.cons_append, List.cons_append, read_of_not_isBlank hb, comments,
                blockComment_append _ hbody]
      · have ho := Bool.eq_false_iff.2 hopens
        refine .inr (.inr ⟨read_lexeme hb ho, fun c' ds h => ?_⟩)
        cases h
        exact ⟨hb, ho⟩

/-- Behind a gap stands no blank and no comment, and the gap goes on with the next line only if
nothing stands there. -/
theorem read_closed {trivia ds : List Char} (h : read cs = .closed trivia ds) :
    (∀ c ds', ds = c :: ds' → isBlank c = false ∧ ds'.head?.any (opensComment c) = false) ∧
      ∀ rest, read (cs ++ '\n' :: rest) = (read (ds ++ '\n' :: rest)).after trivia := by
  induction hn : cs.length using Nat.strongRecOn generalizing cs trivia ds with
  | _ n ih =>
    subst hn
    rcases read_cases cs with ⟨front, cs', hlt, hread, happend⟩ | ⟨_, hread, -⟩ | ⟨hread, hnone⟩
    · rw [hread] at h
      cases hrest : read cs' with
      | unclosed => rw [hrest] at h; cases h
      | closed trivia' ds' =>
        rw [hrest] at h
        cases h
        obtain ⟨hnone, hagain⟩ := ih _ hlt hrest rfl
        exact ⟨hnone, fun rest => by rw [happend, hagain, after_after]⟩
    · rw [hread] at h
      cases h
    · rw [hread] at h
      cases h
      exact ⟨hnone, fun rest => (after_nil _).symm⟩

/-- Behind a gap there is none. -/
theorem read_behind {trivia ds : List Char} (h : read cs = .closed trivia ds) :
    read ds = .closed [] ds := by
  cases ds with
  | nil => rw [read_eq]; rfl
  | cons c ds =>
    obtain ⟨hblank, hopens⟩ := (read_closed h).1 c ds rfl
    exact read_lexeme hblank hopens

/-- What stands behind a gap makes no other one with the next line. -/
theorem read_behind_append {c : Char} {trivia ds : List Char}
    (h : read cs = .closed trivia (c :: ds)) (rest : List Char) :
    read (c :: (ds ++ '\n' :: rest)) = .closed [] (c :: (ds ++ '\n' :: rest)) := by
  obtain ⟨hblank, hopens⟩ := (read_closed h).1 c ds rfl
  exact read_lexeme hblank (by rwa [head?_any_append_cons (not_opensComment_lineFeed c)])

/-- A block comment that never ends goes on with a line feed. -/
theorem read_unclosed {trivia comment : List Char} (h : read cs = .unclosed trivia comment) :
    read (cs ++ ['\n']) = .unclosed trivia (comment ++ ['\n']) := by
  induction hn : cs.length using Nat.strongRecOn generalizing cs trivia comment with
  | _ n ih =>
    subst hn
    rcases read_cases cs with ⟨front, cs', hlt, hread, happend⟩ | ⟨_, hread, hagain⟩ | ⟨hread, -⟩
    · rw [hread] at h
      cases hrest : read cs' with
      | closed => rw [hrest] at h; cases h
      | unclosed trivia' comment' =>
        rw [hrest] at h
        cases h
        rw [happend, ih _ hlt hrest rfl]
        rfl
    · rw [hread] at h
      cases h
      exact hagain
    · rw [hread] at h
      cases h

end Gap

namespace Lexeme

variable {c : Char} {cs : List Char} {s : Split}

theorem quotedName_append (rest : List Char) (h : quotedName cs = some s) :
    quotedName (cs ++ '\n' :: rest) = some (s.1, s.2 ++ '\n' :: rest) := by
  fun_induction quotedName cs generalizing s with
  | case1 cs ih =>
    obtain ⟨s', hs, rfl⟩ := Option.map_eq_some_iff.1 h
    simp [quotedName, ih hs, Split.after]
  | case2 cs hq =>
    cases h
    cases cs with
    | nil => simp [quotedName]
    | cons d cs =>
      have hd : d ≠ '"' := fun hd => hq cs (by rw [hd])
      simp [quotedName, hd]
  | case3 c cs hqq hq ih =>
    obtain ⟨s', hs, rfl⟩ := Option.map_eq_some_iff.1 h
    rw [List.cons_append, quotedName, ih hs]
    · rfl
    · exact fun _ hc => absurd hc hq
    · exact hq
  | case4 => cases h

theorem quotedString_append_line (rest : List Char) (h : quotedString cs = some s) :
    quotedString (cs ++ '\n' :: rest) = some (s.1, s.2 ++ '\n' :: rest) := by
  have hhead : s.2.head? ≠ some '\'' := by
    clear rest
    fun_induction quotedString cs generalizing s with
    | case1 cs ih | case3 cs ih | case4 c cs _ _ _ ih =>
      obtain ⟨s', hs, rfl⟩ := Option.map_eq_some_iff.1 h
      exact @ih s' hs
    | case2 cs hq =>
      cases h
      intro hhead
      obtain ⟨ds, rfl⟩ := List.head?_eq_some_iff.1 hhead
      exact hq ds rfl
    | case5 => cases h
  have htext := text_of_quotedString h
  rw [← htext, Split.text, List.append_assoc]
  refine quotedString_append h ?_
  cases hs : s.2 with
  | nil => simp
  | cons d ds => rwa [hs] at hhead

theorem tag_append_line (cs rest : List Char) :
    tag (cs ++ '\n' :: rest) = ((tag cs).1, (tag cs).2 ++ '\n' :: rest) := by
  cases cs with
  | nil => rfl
  | cons c cs =>
    obtain ⟨htake, hdrop⟩ := takeWhile_append_cons (p := inTag) (c := '\n') (by decide) cs rest
    cases hc : beginsName c <;> simp [tag, hc, htake, hdrop]

/-- A lexeme with more behind it. -/
def before (rest : List Char) (x : Lexeme) : Lexeme := { x with rest := x.rest ++ rest }

theorem ofScan_append {kind : Token.Kind} {scan scan' : Option Split} {rest : List Char}
    (h : (ofScan kind c cs scan).kind ≠ .unterminated)
    (hscan : ∀ s, scan = some s → scan' = some (s.1, s.2 ++ rest)) :
    ofScan kind c (cs ++ rest) scan' = (ofScan kind c cs scan).before rest := by
  cases scan with
  | none => exact absurd rfl h
  | some s => rw [hscan s rfl]; rfl

theorem dollarString_append_line (rest : List Char)
    (h : (dollarString cs).kind ≠ .unterminated) :
    dollarString (cs ++ '\n' :: rest) = (dollarString cs).before ('\n' :: rest) := by
  have htag := tag_append_line cs rest
  cases hr : (tag cs).2 with
  | nil =>
    have hstray : dollarString cs = single .stray '$' cs := by simp [dollarString, hr]
    rw [hstray, dollarString, htag, hr]
    rfl
  | cons d body =>
    by_cases hd : d = '$'
    · subst hd
      have hstring : dollarString cs = ofScan .string '$' cs
          ((through ('$' :: (tag cs).1 ++ ['$']) body).map (.after ((tag cs).1 ++ ['$']))) := by
        simp [dollarString, hr]
      rw [hstring] at h ⊢
      rw [dollarString, htag, hr]
      refine ofScan_append h fun s hs => ?_
      obtain ⟨s', hs', rfl⟩ := Option.map_eq_some_iff.1 hs
      have hthrough := through_append (by simp) (s'.2 ++ '\n' :: rest) hs'
      rw [← List.append_assoc, show s'.1 ++ s'.2 = body from text_of_through hs'] at hthrough
      show Option.map _ (through ('$' :: (tag cs).1 ++ ['$']) (body ++ '\n' :: rest)) = _
      rw [hthrough]
      rfl
    · have hstray : dollarString cs = single .stray '$' cs := by
        simp [dollarString, hr, hd]
      rw [hstray, dollarString, htag, hr]
      simp [hd, single, before]

theorem number_append_line (c : Char) (cs rest : List Char) :
    number c (cs ++ '\n' :: rest) = (number c cs).before ('\n' :: rest) := by
  obtain ⟨htake, hdrop⟩ := takeWhile_append_cons (p := Char.isDigit) (c := '\n') rfl cs rest
  rw [number, hdrop, number, htake]
  cases hr : cs.dropWhile Char.isDigit with
  | nil => rfl
  | cons d more =>
    by_cases hd : d = '.'
    · subst hd
      obtain ⟨htake', hdrop'⟩ := takeWhile_append_cons (p := Char.isDigit) (c := '\n') rfl more rest
      simp [htake', hdrop', before]
    · simp [hd, before]

/-- A lexeme that does not break off ends where it does, if the next line follows. -/
theorem read_append_line (rest : List Char) (h : (read c cs).kind ≠ .unterminated) :
    read c (cs ++ '\n' :: rest) = (read c cs).before ('\n' :: rest) := by
  unfold read
  split
  case h_10 =>
    obtain ⟨htake, hdrop⟩ := takeWhile_append_cons (p := Char.isDigit) (c := '\n') rfl cs rest
    rw [head?_any_append_cons rfl, htake, hdrop]
    split <;> rfl
  case h_11 =>
    cases cs with
    | nil => rfl
    | cons d cs => by_cases hd : d = ':' <;> simp [hd, single, before]
  case h_12 => exact ofScan_append h fun s => quotedString_append_line rest
  case h_13 => exact ofScan_append h fun s => quotedName_append rest
  case h_14 => exact dollarString_append_line rest h
  case h_15 =>
    obtain ⟨htake, hdrop⟩ := takeWhile_append_cons (p := Gap.inLine) (c := '\n') rfl cs rest
    rw [head?_any_append_cons (by decide), htake, hdrop]
    split <;> rfl
  case h_16 =>
    obtain ⟨htake, hdrop⟩ := takeWhile_append_cons (p := inName) (c := '\n') (by decide) cs rest
    rw [htake, hdrop, number_append_line]
    split
    · rfl
    · split <;> rfl
  all_goals rfl

end Lexeme

/-! ### Tokens on later lines -/

/-- A token some lines later. -/
def Token.moved (n : Nat) (t : Token) : Token := { t with line := t.line + n }

@[simp] theorem Token.moved_kind (n : Nat) (t : Token) : (t.moved n).kind = t.kind := rfl

@[simp] theorem Token.moved_symbol (n : Nat) (t : Token) : (t.moved n).symbol = t.symbol := rfl

@[simp] theorem Token.moved_isEof (n : Nat) (t : Token) : (t.moved n).isEof = t.isEof := rfl

namespace Lexer

/-- A lexer some lines later hands out the same token some lines later. -/
theorem next_add (cs : List Char) (line n : Nat) (finished : Bool) :
    (Lexer.mk cs (line + n) finished).next =
      ((Lexer.mk cs line finished).next.1.moved n,
        { (Lexer.mk cs line finished).next.2 with
          line := (Lexer.mk cs line finished).next.2.line + n }) := by
  unfold next
  cases finished with
  | true => rfl
  | false =>
    cases hg : Gap.read cs with
    | unclosed trivia comment => simp [Token.moved, Nat.add_right_comm]
    | closed trivia rest => cases rest <;> simp [Token.moved, Token.eof, Nat.add_right_comm]

theorem drain_add (cs : List Char) (line n : Nat) (finished : Bool) :
    (Lexer.mk cs (line + n) finished).drain = ((Lexer.mk cs line finished).drain.1.map (.moved n),
      (Lexer.mk cs line finished).drain.2.moved n) := by
  induction hl : Lexer.mk cs line finished using drain_induction generalizing cs line finished with
  | stop l he =>
    subst hl
    rw [drain_of_isEof he, drain_of_isEof (by simpa [next_add] using he), next_add]
    rfl
  | token l he ih =>
    subst hl
    rw [drain_of_not_isEof he, drain_of_not_isEof (by simpa [next_add] using he), next_add,
      ih _ _ _ rfl]
    rfl

theorem drain_congr {l l' : Lexer} (h : l.next = l'.next) : l.drain = l'.drain := by
  rw [drain_eq, h, ← drain_eq]

/-- What a gap begins with moves the line count on and is not lexed. -/
theorem drain_of_read {cs cs' front : List Char} (h : Gap.read cs = (Gap.read cs').after front)
    (line : Nat) :
    (Lexer.mk cs line false).drain = (Lexer.mk cs' (line + lineFeeds front) false).drain := by
  apply drain_congr
  unfold next
  dsimp only
  rw [h]
  cases Gap.read cs' with
  | unclosed trivia comment => simp [Gap.after, lineFeeds, Nat.add_assoc]
  | closed trivia rest => cases rest <;> simp [Gap.after, lineFeeds, Nat.add_assoc]

/-- Where no gap is, a lexeme is handed out. -/
theorem drain_lexeme {c : Char} {cs : List Char} (h : Gap.read (c :: cs) = .closed [] (c :: cs))
    (line : Nat) {x : Lexeme} (hx : Lexeme.read c cs = x) (hk : x.kind ≠ .unterminated) :
    (Lexer.mk (c :: cs) line false).drain =
      (⟨x.kind, String.ofList x.literal, line⟩ ::
          (Lexer.mk x.rest (line + x.lineFeeds) false).drain.1,
        (Lexer.mk x.rest (line + x.lineFeeds) false).drain.2) := by
  have hdrain := drain_of_lexeme line h hx rfl
  rwa [beq_false_of_ne hk] at hdrain

/-- A lexer hands out the end, or another token, and is finished if this breaks off. -/
theorem next_cases (l : Lexer) : (∃ line, l.next.1 = .eof line) ∨
    (l.next.1.isEof = false ∧ (l.next.1.kind = .unterminated → l.next.2.finished)) := by
  unfold next
  cases l.finished with
  | true => exact .inl ⟨_, rfl⟩
  | false =>
    cases Gap.read l.rest with
    | unclosed => exact .inr ⟨rfl, fun _ => rfl⟩
    | closed trivia rest =>
      cases rest with
      | nil => exact .inl ⟨_, rfl⟩
      | cons c cs =>
        have hk := Lexeme.kind_read_ne c cs
        exact .inr ⟨by simpa [Token.isEof] using hk, fun h => by simpa using h⟩

/-- Behind a token that breaks off there is only the end. -/
theorem drain_next_of_unterminated {l : Lexer} (h : l.next.1.kind = .unterminated) :
    l.next.2.drain = ([], .eof l.next.2.line) := by
  obtain ⟨line, heof⟩ | ⟨-, hfinished⟩ := l.next_cases
  · rw [heof] at h
    cases h
  · have hnext : l.next.2 = ⟨l.next.2.rest, l.next.2.line, true⟩ := by rw [← hfinished h]
    rw [hnext, drain_finished]

/-- A token that breaks off is the last one. -/
theorem kind_ne_of_mem_dropLast {l : Lexer} {t : Token} (ht : t ∈ l.drain.1.dropLast) :
    t.kind ≠ .unterminated := by
  induction l using drain_induction with
  | stop l he => simp [drain_of_isEof he] at ht
  | token l he ih =>
    rw [drain_of_not_isEof he] at ht
    cases hrest : l.next.2.drain.1 with
    | nil => simp [hrest] at ht
    | cons u us =>
      rw [hrest, List.dropLast_cons_cons, ← hrest, List.mem_cons] at ht
      rcases ht with rfl | ht
      · intro hk
        rw [drain_next_of_unterminated hk] at hrest
        cases hrest
      · exact ih ht

theorem exists_drain_eq_eof (l : Lexer) : ∃ line, l.drain.2 = .eof line := by
  induction l using drain_induction with
  | stop l he =>
    rw [drain_of_isEof he]
    exact l.next_cases.resolve_right fun h => by simp [he] at h
  | token l he ih =>
    rw [drain_of_not_isEof he]
    exact ih

/-- A gap at the start moves the line count on. -/
theorem drain_gap {cs trivia ds : List Char} (h : Gap.read cs = .closed trivia ds) (line : Nat) :
    (Lexer.mk cs line false).drain = (Lexer.mk ds (line + lineFeeds trivia) false).drain := by
  apply drain_of_read
  rw [h, Gap.read_behind h]
  simp [Gap.after]

/-- A lexeme is among the tokens, so it does not break off if none of them does. -/
theorem kind_read_ne_unterminated {c : Char} {cs : List Char} {line : Nat}
    (hread : Gap.read (c :: cs) = .closed [] (c :: cs))
    (h : ∀ t ∈ (Lexer.mk (c :: cs) line false).drain.1, t.kind ≠ .unterminated) :
    (Lexeme.read c cs).kind ≠ .unterminated := by
  refine h ⟨_, String.ofList (Lexeme.read c cs).literal, line⟩ ?_
  rw [drain_of_lexeme line hread rfl rfl]
  exact .head _

/-- The line feeds of a text are those of its first lexeme and those behind it. -/
theorem lineFeeds_lexeme {c : Char} {cs : List Char} (hk : (Lexeme.read c cs).kind ≠ .unterminated) :
    lineFeeds (c :: cs) = (Lexeme.read c cs).lineFeeds + lineFeeds (Lexeme.read c cs).rest := by
  rw [← Lexeme.text_read c cs, Lexeme.text, lineFeeds_append, Lexeme.lineFeeds_of_ne hk]

/-- **Lexing starts anew on a new line**: behind a text that does not break off, the next line is
lexed as if nothing stood before it, but for the line count. -/
theorem drain_append {cs : List Char} {line : Nat} (rest : List Char)
    (h : ∀ t ∈ (Lexer.mk cs line false).drain.1, t.kind ≠ .unterminated) :
    (Lexer.mk (cs ++ '\n' :: rest) line false).drain =
      ((Lexer.mk cs line false).drain.1 ++
          (Lexer.mk rest (line + lineFeeds cs + 1) false).drain.1,
        (Lexer.mk rest (line + lineFeeds cs + 1) false).drain.2) := by
  -- By induction on the length: a gap, a lexeme, and what is behind it.
  induction hn : cs.length using Nat.strongRecOn generalizing cs line with
  | _ n ih =>
    subst hn
    cases hg : Gap.read cs with
    | unclosed trivia comment =>
      refine absurd rfl (h ⟨.unterminated, String.ofList comment, line + lineFeeds trivia⟩ ?_)
      rw [drain_of_unclosed line hg]
      exact .head _
    | closed trivia ds =>
      have htext : trivia ++ ds = cs := by simpa [hg, Gap.text] using Gap.text_read cs
      have hfeeds : lineFeeds cs = lineFeeds trivia + lineFeeds ds := by
        rw [← htext, lineFeeds_append]
      rw [drain_gap hg] at h ⊢
      rw [drain_of_read ((Gap.read_closed hg).2 rest)]
      cases ds with
      | nil =>
        have hgap : Gap.read [] = .closed [] [] := Gap.read_behind hg
        rw [drain_of_end _ hgap, List.nil_append, List.nil_append,
          drain_of_read (Gap.read_blank (by decide) rest), hfeeds]
        rfl
      | cons c ds =>
        have hread := Gap.read_behind hg
        have hk := kind_read_ne_unterminated hread h
        have hlt := Lexeme.length_rest_read c ds
        have hlexeme := lineFeeds_lexeme hk
        have hlength := congrArg List.length htext
        rw [List.length_append] at hlength
        rw [drain_lexeme hread _ rfl hk] at h ⊢
        rw [List.cons_append, drain_lexeme (Gap.read_behind_append hg rest) _
          (Lexeme.read_append_line rest hk) hk]
        have hrest := ih _ (by omega) (List.forall_mem_cons.1 h).2 rfl
        have hline : line + lineFeeds trivia + (Lexeme.read c ds).lineFeeds +
            lineFeeds (Lexeme.read c ds).rest + 1 = line + lineFeeds cs + 1 := by omega
        rw [hline] at hrest
        show (_ :: (Lexer.mk ((Lexeme.read c ds).rest ++ '\n' :: rest) (line + lineFeeds trivia +
          (Lexeme.read c ds).lineFeeds) false).drain.1, (Lexer.mk ((Lexeme.read c ds).rest ++
            '\n' :: rest) (line + lineFeeds trivia + (Lexeme.read c ds).lineFeeds) false).drain.2) = _
        rw [hrest]
        rfl

end Lexer

theorem symbols_append {cs : List Char} (rest : List Char)
    (h : ∀ x ∈ symbols cs, x.kind ≠ .unterminated) :
    symbols (cs ++ '\n' :: rest) = symbols cs ++ symbols rest := by
  have htokens : ∀ t ∈ (Lexer.mk cs 1 false).drain.1, t.kind ≠ .unterminated :=
    fun t ht => h _ (List.mem_map_of_mem ht)
  rw [symbols, Lexer.drain_append rest htokens, List.map_append, Lexer.map_symbol_drain_eq rest]
  rfl

theorem symbols_eq_nil_of_append {cs : List Char} (h : symbols (cs ++ ['\n']) = []) :
    symbols cs = [] := by
  rw [symbols_eq] at h ⊢
  cases hg : Gap.read cs with
  | unclosed trivia comment =>
    rw [Gap.read_unclosed hg] at h
    cases h
  | closed trivia ds =>
    cases ds with
    | nil => rfl
    | cons c ds =>
      rw [(Gap.read_closed hg).2, List.cons_append, Gap.read_behind_append hg] at h
      cases h

/-- A symbol that others follow does not break off. -/
theorem kind_ne_of_symbols_eq {cs : List Char} {xs ys : List Symbol} (h : symbols cs = xs ++ ys)
    (hy : ys ≠ []) : ∀ x ∈ xs, x.kind ≠ .unterminated := by
  intro x hx
  have hinit : x ∈ (symbols cs).dropLast := by
    rw [h, List.dropLast_append_of_ne_nil hy]
    exact List.mem_append_left _ hx
  rw [symbols, ← List.map_dropLast] at hinit
  obtain ⟨t, ht, rfl⟩ := List.mem_map.1 hinit
  exact Lexer.kind_ne_of_mem_dropLast ht

namespace TokenStream

/-- A stream of tokens some lines later. -/
def moved (n : Nat) (s : TokenStream) : TokenStream := ⟨s.tokens.map (.moved n), s.stop.moved n⟩

/-- No token of a text that does not break off does. -/
theorem kind_ne_of_not_isTruncated {text : String} (h : ¬ (ofText text).isTruncated) :
    ∀ t ∈ (ofText text).tokens, t.kind ≠ .unterminated := by
  intro t ht hk
  have hne := List.ne_nil_of_mem ht
  rw [← List.dropLast_concat_getLast hne, List.mem_append, List.mem_singleton] at ht
  rcases ht with ht | rfl
  · exact Lexer.kind_ne_of_mem_dropLast ht hk
  · exact h (by simp [isTruncated, List.getLast?_eq_some_getLast hne, hk])

/-- The tokens of a text that does not break off and of what follows from the next line on. -/
theorem ofText_append_line {text : String} (rest : String) (h : ¬ (ofText text).isTruncated) :
    ofText (text ++ "\n" ++ rest) =
      ⟨(ofText text).tokens ++
          ((ofText rest).moved (Lexer.lineFeeds text.toList + 1)).tokens,
        ((ofText rest).moved (Lexer.lineFeeds text.toList + 1)).stop⟩ := by
  have htext : (text ++ "\n" ++ rest).toList = text.toList ++ '\n' :: rest.toList := by simp
  rw [ofText, Lexer.ofText, htext, Lexer.drain_append _ (kind_ne_of_not_isTruncated h),
    Nat.add_assoc, Lexer.drain_add]
  rfl

end TokenStream

end SchemaPatch
