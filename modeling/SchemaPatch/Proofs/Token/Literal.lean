import SchemaPatch.Proofs.Token.Front

/-!
# Strings and numbers are read again

A string or number that was read of a text is read again wherever its literal stands before a text
that does not go on with it (`Symbol.survives_of_mem`). So literals may be copied verbatim.
-/

namespace SchemaPatch

namespace Lexeme

variable {cs : List Char} {s : Split} {rest : List Char}

/-! ### Scans take no less if something else follows -/

theorem ne_nil_of_quotedString (h : quotedString cs = some s) : s.1 ≠ [] := by
  fun_induction quotedString cs generalizing s with
  | case1 cs ih | case3 cs ih | case4 c cs _ _ _ ih =>
    obtain ⟨s', hs, rfl⟩ := Option.map_eq_some_iff.1 h
    simp [Split.after]
  | case2 cs _ => cases h; simp
  | case5 => cases h

theorem quotedString_append (h : quotedString cs = some s) (hr : rest.head? ≠ some '\'') :
    quotedString (s.1 ++ rest) = some (s.1, rest) := by
  fun_induction quotedString cs generalizing s with
  | case1 cs ih | case3 cs ih =>
    obtain ⟨s', hs, rfl⟩ := Option.map_eq_some_iff.1 h
    simp [Split.after, quotedString, ih hs]
  | case2 cs _ =>
    cases h
    cases rest with
    | nil => rfl
    | cons c rest =>
      have hc : c ≠ '\'' := fun hc => hr (by rw [hc]; rfl)
      simp [quotedString, hc]
  | case4 c cs hc hq he ih =>
    obtain ⟨s', hs, rfl⟩ := Option.map_eq_some_iff.1 h
    obtain ⟨d, ds, hd⟩ := List.exists_cons_of_ne_nil (ne_nil_of_quotedString hs)
    have htext := text_of_quotedString hs
    have hagain := ih hs
    rw [Split.text, hd, List.cons_append] at htext
    rw [hd, List.cons_append] at hagain
    show quotedString (c :: (s'.1 ++ rest)) = some (c :: s'.1, rest)
    rw [hd, List.cons_append, quotedString, hagain]
    · rfl
    · exact fun _ hc => absurd hc hq
    · exact hq
    · rintro _ hc heq
      exact he (ds ++ s'.2) hc (by rw [← htext, (List.cons.inj heq).1])
  | case5 => cases h

theorem length_le_of_through {mark : List Char} (h : through mark cs = some s) :
    mark.length ≤ s.1.length := by
  induction cs generalizing s with
  | nil => cases h
  | cons c cs ih =>
    rw [through] at h
    split at h
    · cases h
      exact Nat.le_refl _
    · obtain ⟨s', hs, rfl⟩ := Option.map_eq_some_iff.1 h
      have := ih hs
      simp only [Split.after, List.length_append, List.length_singleton]
      omega

/-- What ends a dollar string is found at the same place whatever follows it. -/
theorem through_append {mark : List Char} (hm : mark ≠ []) (rest : List Char)
    (h : through mark cs = some s) : through mark (s.1 ++ rest) = some (s.1, rest) := by
  induction cs generalizing s with
  | nil => cases h
  | cons c cs ih =>
    rw [through] at h
    split at h
    · cases h
      obtain ⟨m, ms, rfl⟩ := List.exists_cons_of_ne_nil hm
      have hpre : (m :: ms).isPrefixOf (m :: (ms ++ rest)) :=
        List.isPrefixOf_iff_prefix.2 (List.prefix_append (m :: ms) rest)
      show through (m :: ms) (m :: (ms ++ rest)) = some (m :: ms, rest)
      rw [through, if_pos hpre]
      simp
    · next hp =>
      obtain ⟨s', hs, rfl⟩ := Option.map_eq_some_iff.1 h
      have hlen := length_le_of_through hs
      have htext : c :: (s'.1 ++ s'.2) = c :: cs := congrArg (c :: ·) (text_of_through hs)
      have hnot : ¬ mark.isPrefixOf (c :: (s'.1 ++ rest)) := by
        rw [List.isPrefixOf_iff_prefix] at hp ⊢
        intro hpre
        -- The mark is no longer than what was taken, so it would stand there already.
        have hshort : mark <+: c :: s'.1 :=
          List.prefix_of_prefix_length_le hpre (List.prefix_append (c :: s'.1) rest)
            (Nat.le_succ_of_le hlen)
        exact hp (htext ▸ hshort.trans (List.prefix_append (c :: s'.1) s'.2))
      show through mark (c :: (s'.1 ++ rest)) = some (c :: s'.1, rest)
      rw [through, if_neg hnot, ih hs]
      rfl

/-- A dollar tag ends at the dollar sign behind it. -/
theorem tag_append {cs : List Char} (body : List Char) (h : (tag cs).2.head? = some '$') :
    tag ((tag cs).1 ++ '$' :: body) = ((tag cs).1, '$' :: body) := by
  have hdollar : ∀ c, ('$' :: body).head? = some c → inTag c = false := by
    rintro c ⟨⟩
    decide
  cases cs with
  | nil => cases h
  | cons c cs =>
    rw [tag] at h ⊢
    split
    · next hc =>
      obtain ⟨htake, hdrop⟩ := takeWhile_append (List.all_takeWhile (l := cs)) hdollar
      simp only [List.cons_append, tag, if_pos hc, htake, hdrop]
    · rfl

/-! ### Lexemes -/

/-- A tag between dollar signs and a text that ends with both of them again. -/
theorem dollarString_of_through {body : List Char} (htag : (tag cs).2 = '$' :: body)
    (hs : through ('$' :: (tag cs).1 ++ ['$']) body = some s) :
    dollarString cs = ⟨.string, '$' :: ((tag cs).1 ++ '$' :: s.1), s.2⟩ := by
  rw [dollarString]
  split
  · next body' hbody =>
    rw [htag] at hbody
    obtain ⟨-, rfl⟩ := List.cons.inj hbody
    rw [hs]
    simp [ofScan, Split.after]
  · next hno => exact absurd htag (hno body)

theorem exists_through_of_string (h : (dollarString cs).kind = .string) :
    ∃ body s, (tag cs).2 = '$' :: body ∧ through ('$' :: (tag cs).1 ++ ['$']) body = some s := by
  rw [dollarString] at h
  split at h
  · next body hb =>
    cases ht : through ('$' :: (tag cs).1 ++ ['$']) body with
    | none => rw [ht] at h; cases h
    | some s => exact ⟨body, s, hb, ht⟩
  · cases h

theorem dollarString_append (h : (dollarString cs).kind = .string) (rest : List Char) :
    dollarString ((dollarString cs).literal.tail ++ rest) =
      ⟨.string, (dollarString cs).literal, rest⟩ := by
  obtain ⟨body, s, htag, hs⟩ := exists_through_of_string h
  have hagain := tag_append (s.1 ++ rest) (by rw [htag]; rfl)
  have hthrough := through_append (by simp) rest hs
  rw [dollarString_of_through htag hs]
  show dollarString ((tag cs).1 ++ '$' :: s.1 ++ rest) = _
  rw [List.append_assoc, List.cons_append,
    dollarString_of_through (congrArg Prod.snd hagain) (by rw [hagain]; exact hthrough), hagain]

/-- Digits, a point and digits. -/
theorem number_of_dot {c : Char} {ds more : List Char} (hds : ds.all Char.isDigit)
    (hmore : more.all Char.isDigit) (h : Apart rest) :
    number c (ds ++ '.' :: (more ++ rest)) = ⟨.number, c :: (ds ++ '.' :: more), rest⟩ := by
  have hdot : ∀ c, ('.' :: (more ++ rest)).head? = some c → c.isDigit = false := by
    rintro c ⟨⟩
    decide
  obtain ⟨htake, hdrop⟩ := takeWhile_append hds hdot
  obtain ⟨htake', hdrop'⟩ := takeWhile_append hmore h.not_isDigit
  rw [number, hdrop]
  show Lexeme.mk _ (c :: (_ ++ '.' :: (more ++ rest).takeWhile Char.isDigit)) _ = _
  rw [htake, htake', hdrop']

/-- Digits alone. -/
theorem number_of_digits {c : Char} {ds : List Char} (hds : ds.all Char.isDigit) (h : Apart rest) :
    number c (ds ++ rest) = ⟨.number, c :: ds, rest⟩ := by
  obtain ⟨htake, hdrop⟩ := takeWhile_append hds h.not_isDigit
  rw [number, hdrop]
  split
  · exact absurd rfl (h.head?_ne (by decide))
  · rw [htake]

theorem number_append (c : Char) (h : Apart rest) :
    number c ((number c cs).literal.tail ++ rest) = ⟨.number, (number c cs).literal, rest⟩ := by
  have hall : ∀ l : List Char, (l.takeWhile Char.isDigit).all Char.isDigit := fun l =>
    List.all_takeWhile
  cases hd : cs.dropWhile Char.isDigit with
  | nil =>
    have hn : number c cs = ⟨.number, c :: cs.takeWhile Char.isDigit, []⟩ := by
      rw [number, hd]
    rw [hn]
    exact number_of_digits (hall cs) h
  | cons d more =>
    by_cases hdot : d = '.'
    · subst hdot
      have hn : number c cs = ⟨.number, c :: (cs.takeWhile Char.isDigit ++
          '.' :: more.takeWhile Char.isDigit), more.dropWhile Char.isDigit⟩ := by
        rw [number, hd]
        rfl
      rw [hn]
      show number c (cs.takeWhile Char.isDigit ++ '.' :: more.takeWhile Char.isDigit ++ rest) = _
      rw [List.append_assoc, List.cons_append, number_of_dot (hall cs) (hall more) h]
    · have hn : number c cs = ⟨.number, c :: cs.takeWhile Char.isDigit, d :: more⟩ := by
        rw [number, hd]
        split
        · next heq => exact absurd (List.cons.inj heq).1 hdot
        · rfl
      rw [hn]
      exact number_of_digits (hall cs) h

theorem read_of_isDigit {c : Char} (hc : c.isDigit) (cs : List Char) : read c cs = number c cs := by
  unfold read
  split
  case h_16 => rw [if_pos hc]
  all_goals exact absurd hc (by decide)

/-- Strings begin with a quote or a dollar sign, numbers with a point or a digit. -/
theorem begins_of_read {c : Char} (hk : (read c cs).kind = .string ∨ (read c cs).kind = .number) :
    (c = '\'' ∧ ∃ s, quotedString cs = some s) ∨ (c = '$' ∧ (dollarString cs).kind = .string) ∨
      (c = '.' ∧ cs.head?.any Char.isDigit) ∨ c.isDigit := by
  unfold read at hk
  split at hk
  case h_10 =>
    split at hk
    · next hd => exact .inr (.inr (.inl ⟨rfl, hd⟩))
    · simp [single] at hk
  case h_11 => split at hk <;> simp [single] at hk
  case h_12 =>
    cases hs : quotedString cs with
    | none => simp [hs, ofScan] at hk
    | some s => exact .inl ⟨rfl, s, rfl⟩
  case h_13 => cases hs : quotedName cs <;> simp [hs, ofScan] at hk
  case h_14 =>
    refine .inr (.inl ⟨rfl, hk.resolve_right fun hn => ?_⟩)
    rw [dollarString] at hn
    split at hn
    · cases hs : Option.map _ _ <;> rw [hs] at hn <;> cases hn
    · cases hn
  case h_15 => split at hk <;> simp [single] at hk
  case h_16 =>
    split at hk
    · next hd => exact .inr (.inr (.inr hd))
    · split at hk
      · simp only [wordKind] at hk
        split at hk <;> simp at hk
      · simp [single] at hk
  all_goals simp [single] at hk

/-- A string or number is read again before a text that stands apart. -/
theorem read_append {c : Char} (hk : (read c cs).kind = .string ∨ (read c cs).kind = .number)
    (h : Apart rest) :
    read c ((read c cs).literal.tail ++ rest) = ⟨(read c cs).kind, (read c cs).literal, rest⟩ := by
  rcases begins_of_read hk with ⟨rfl, s, hs⟩ | ⟨rfl, hs⟩ | ⟨rfl, hd⟩ | hd
  · have hagain := quotedString_append hs (h.head?_ne (by decide))
    simp [read, hs, ofScan, hagain]
  · show dollarString ((dollarString cs).literal.tail ++ rest) =
      ⟨(dollarString cs).kind, (dollarString cs).literal, rest⟩
    rw [dollarString_append hs, hs]
  · have hread : ∀ {ds : List Char}, ds.head?.any Char.isDigit →
        read '.' ds = ⟨.number, '.' :: ds.takeWhile Char.isDigit, ds.dropWhile Char.isDigit⟩ :=
      fun hds => if_pos hds
    obtain ⟨htake, hdrop⟩ := takeWhile_append (List.all_takeWhile (l := cs)) h.not_isDigit
    have hhead : (cs.takeWhile Char.isDigit ++ rest).head?.any Char.isDigit := by
      cases cs with
      | nil => cases hd
      | cons d cs =>
        have hd : d.isDigit := by simpa using hd
        rw [List.takeWhile_cons_of_pos hd]
        simpa using hd
    rw [hread hd]
    show read '.' (cs.takeWhile Char.isDigit ++ rest) = _
    rw [hread hhead, htake, hdrop]
  · have hkind : (number c cs).kind = .number := by
      rw [number]
      split <;> rfl
    rw [read_of_isDigit hd, read_of_isDigit hd, number_append c h, hkind]

end Lexeme

/-! ### Literals -/

/-- A symbol that is lexed wherever its literal stands before a text that stands apart. It begins with
no character that could make a comment of an operator before it. -/
structure Symbol.Stands (x : Symbol) : Prop where
  symbols_eq : ∀ rest, Apart rest → symbols (x.literal.toList ++ rest) = x :: symbols rest
  head : ∃ c, x.literal.toList.head? = some c ∧ c ≠ '-' ∧ c ≠ '*'

theorem isBlank_of_isDigit {c : Char} (h : c.isDigit) : isBlank c = false := by
  obtain ⟨h₁, h₂⟩ := Lexeme.bounds_of_isDigit h
  apply Bool.eq_false_iff.2
  intro hb
  simp only [isBlank, Bool.or_eq_true, Bool.and_eq_true, decide_eq_true_eq, beq_iff_eq] at hb
  omega

/-- What strings and numbers begin with is not blank and begins no comment. -/
theorem Lexeme.not_comment_of_read {c : Char} {cs : List Char}
    (hk : (read c cs).kind = .string ∨ (read c cs).kind = .number) :
    isBlank c = false ∧ c ≠ '-' ∧ c ≠ '*' ∧ c ≠ '/' := by
  rcases begins_of_read hk with ⟨rfl, -⟩ | ⟨rfl, -⟩ | ⟨rfl, -⟩ | hd
  · decide
  · decide
  · decide
  · refine ⟨isBlank_of_isDigit hd, ?_, ?_, ?_⟩ <;>
      · rintro rfl
        exact absurd hd (by decide)

/-- A lexeme that is a string or a number stands. -/
theorem Lexeme.stands_read {c : Char} {cs : List Char}
    (hk : (read c cs).kind = .string ∨ (read c cs).kind = .number) :
    (Symbol.mk (read c cs).kind (String.ofList (read c cs).literal)).Stands := by
  obtain ⟨w, hw⟩ : ∃ w, (read c cs).literal = c :: w := by
    have hhead := head_read c cs
    cases hl : (read c cs).literal with
    | nil => rw [hl] at hhead; cases hhead
    | cons d ds => rw [hl] at hhead; cases hhead; exact ⟨ds, rfl⟩
  obtain ⟨hblank, hminus, hasterisk, hslash⟩ := not_comment_of_read hk
  refine ⟨fun rest hr => ?_, c, by simp [hw], hminus, hasterisk⟩
  have hagain := read_append hk hr
  rw [hw, List.tail_cons] at hagain
  have hkind : (read c cs).kind ≠ .unterminated := by
    rcases hk with hk | hk <;> simp [hk]
  rw [String.toList_ofList, hw, List.cons_append, symbols_lexeme hblank ?_ hagain hkind]
  cases w ++ rest with
  | nil => rfl
  | cons d ds => simp [Gap.opensComment, hminus, hslash]

/-- The symbols of a text are those of its lexemes, or its last one breaks off. -/
theorem exists_read_of_mem {cs : List Char} {x : Symbol} (h : x ∈ symbols cs) :
    x.kind = .unterminated ∨
      ∃ c cs', x = ⟨(Lexeme.read c cs').kind, String.ofList (Lexeme.read c cs').literal⟩ := by
  induction hn : cs.length using Nat.strongRecOn generalizing cs with
  | _ n ih =>
    subst hn
    have htext := congrArg List.length (Gap.text_read cs)
    rw [symbols_eq] at h
    cases hg : Gap.read cs with
    | unclosed trivia comment =>
      rw [hg] at h
      rw [List.mem_singleton.1 h]
      exact .inl rfl
    | closed trivia rest =>
      cases rest with
      | nil => rw [hg] at h; cases h
      | cons c rest =>
        simp only [hg, Gap.symbols, List.mem_cons] at h
        rcases h with rfl | h
        · exact .inr ⟨c, rest, rfl⟩
        · split at h
          · cases h
          · have hlt := Lexeme.length_rest_read c rest
            simp only [hg, Gap.text, List.length_append] at htext
            exact ih _ (by omega) h rfl

/-- A symbol that stands if it is a string or a number. -/
def Symbol.Survives (x : Symbol) : Prop := x.kind = .string ∨ x.kind = .number → x.Stands

/-- **Literals are read again**: a string or number of any text is lexed wherever its literal stands
before a text that does not go on with it. -/
theorem Symbol.survives_of_mem {cs : List Char} {x : Symbol} (h : x ∈ symbols cs) :
    x.Survives := by
  intro hk
  rcases exists_read_of_mem h with hu | ⟨c, cs', rfl⟩
  · rcases hk with hk | hk <;> cases hu.symm.trans hk
  · exact Lexeme.stands_read hk

end SchemaPatch
