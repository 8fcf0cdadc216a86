import SchemaPatch.Proofs.Token.Restart
import SchemaPatch.Proofs.Token.Unterminated

/-!
# Tokens on lines of their own

The tokens of a text may be written anew, each on a line of its own. This text has the same tokens,
apart from their lines: those of the other text, one by one, with stray characters, commands to the
terminal client and a last token that breaks off among them (`TokenStream.symbols_relaid`). So what
a token is was not decided by what stood behind it, as far as a line feed would have changed it.
-/

namespace SchemaPatch

/-! ### Lexemes on a line -/

namespace Lexeme

variable {c : Char} {cs : List Char} {s : Split}

/-- What a scan of a quoted name takes is taken again on a line of its own. -/
theorem quotedName_line (rest : List Char) (h : quotedName cs = some s) :
    quotedName (s.1 ++ '\n' :: rest) = some (s.1, '\n' :: rest) := by
  suffices halone : quotedName s.1 = some (s.1, []) from quotedName_append rest halone
  clear rest
  fun_induction quotedName cs generalizing s with
  | case1 cs ih =>
    obtain ⟨s', hs, rfl⟩ := Option.map_eq_some_iff.1 h
    simp [Split.after, quotedName, ih hs]
  | case2 cs _ => cases h; rfl
  | case3 c cs _ hq ih =>
    obtain ⟨s', hs, rfl⟩ := Option.map_eq_some_iff.1 h
    show quotedName (c :: s'.1) = some (c :: s'.1, [])
    rw [quotedName, ih hs]
    · rfl
    · exact fun _ hc => absurd hc hq
    · exact hq
  | case4 => cases h

/-- Characters of a class on a line of their own are taken again. -/
theorem takeWhile_line {p : Char → Bool} (hp : p '\n' = false) (cs rest : List Char) :
    (cs.takeWhile p ++ '\n' :: rest).takeWhile p = cs.takeWhile p ∧
      (cs.takeWhile p ++ '\n' :: rest).dropWhile p = '\n' :: rest :=
  takeWhile_append List.all_takeWhile fun c hc => by cases hc; exact hp

theorem not_isAlphabetic_lineFeed : isAlphabetic '\n' = false := by decide

/-- A command begins with the same letter on a line of its own. -/
theorem head?_any_line {cs : List Char} (h : cs.head?.any isAlphabetic) (rest : List Char) :
    (cs.takeWhile Gap.inLine ++ '\n' :: rest).head?.any isAlphabetic := by
  cases cs with
  | nil => cases h
  | cons d cs =>
    have hd : d ≠ '\n' := by
      rintro rfl
      simp [not_isAlphabetic_lineFeed] at h
    rw [List.takeWhile_cons_of_pos (by simpa [Gap.inLine] using hd)]
    simpa using h

/-- A lexeme that does not break off is read again where it stands on a line of its own. -/
theorem read_line (rest : List Char) (h : (read c cs).kind ≠ .unterminated) :
    read c ((read c cs).literal.tail ++ '\n' :: rest) =
      ⟨(read c cs).kind, (read c cs).literal, '\n' :: rest⟩ := by
  by_cases hk : (read c cs).kind = .string ∨ (read c cs).kind = .number
  · exact read_append hk (by simp)
  generalize hx : read c cs = x at h hk ⊢
  unfold read at hx
  split at hx
  case h_10 =>
    split at hx
    · subst hx
      exact absurd (.inr rfl) hk
    · subst hx
      rfl
  case h_11 => split at hx <;> (subst hx; rfl)
  case h_12 =>
    cases hs : quotedString cs <;> (rw [hs] at hx; subst hx)
    · exact absurd rfl h
    · exact absurd (.inl rfl) hk
  case h_13 =>
    cases hs : quotedName cs <;> (rw [hs] at hx; subst hx)
    · exact absurd rfl h
    · next s =>
      show read '"' (s.1 ++ '\n' :: rest) = _
      rw [read, quotedName_line rest hs]
      rfl
  case h_14 =>
    rw [dollarString] at hx
    split at hx
    · next body _ =>
      cases hs : through ('$' :: (tag cs).1 ++ ['$']) body <;> (rw [hs] at hx; subst hx)
      · exact absurd rfl h
      · exact absurd (.inl rfl) hk
    · subst hx
      rfl
  case h_15 =>
    split at hx
    · next ha =>
      subst hx
      obtain ⟨htake, hdrop⟩ := takeWhile_line (p := Gap.inLine) rfl cs rest
      show read '\\' (cs.takeWhile Gap.inLine ++ '\n' :: rest) = _
      rw [read, if_pos (head?_any_line ha rest), htake, hdrop]
    · subst hx
      have hnone : ¬ ('\n' :: rest).head?.any isAlphabetic := by simp [not_isAlphabetic_lineFeed]
      show read '\\' ('\n' :: rest) = _
      rw [read, if_neg hnone]
      rfl
  case h_16 =>
    split at hx
    · next hd =>
      have hnumber : x.kind = .number := by
        rw [← hx, number]
        split <;> rfl
      exact absurd (.inr hnumber) hk
    · next hd =>
      split at hx
      · next hb =>
        have hword : read c (cs.takeWhile inName ++ '\n' :: rest) =
            ⟨wordKind (c :: cs.takeWhile inName), c :: cs.takeWhile inName, '\n' :: rest⟩ :=
          read_word hb List.all_takeWhile (by simp)
        subst hx
        simpa only [List.tail_cons] using hword
      · next hb =>
        subst hx
        show read c ('\n' :: rest) = single .stray c ('\n' :: rest)
        unfold read
        split
        case h_16 => simp [hd, hb]
        all_goals contradiction
  all_goals (subst hx; rfl)

/-- A lexeme has its first character at least. -/
theorem exists_literal_eq_cons (c : Char) (cs : List Char) : ∃ w, (read c cs).literal = c :: w :=
  List.head?_eq_some_iff.1 (head_read c cs)

end Lexeme

/-- A comment that never ends is no other one if nothing stands before it. -/
theorem Gap.read_comment {cs trivia comment : List Char}
    (h : read cs = .unclosed trivia comment) : read comment = .unclosed [] comment := by
  induction hn : cs.length using Nat.strongRecOn generalizing cs trivia with
  | _ n ih =>
    subst hn
    rcases read_cases cs with ⟨front, cs', hlt, hread, -⟩ | ⟨comment', hread, -⟩ | ⟨hread, -⟩
    · rw [hread] at h
      cases hrest : read cs' with
      | closed => rw [hrest] at h; cases h
      | unclosed trivia' comment' =>
        rw [hrest] at h
        cases h
        exact ih _ hlt hrest rfl
    · have htext := text_read cs
      rw [hread] at htext h
      cases h
      have hcs : comment = cs := htext
      rw [hcs] at hread ⊢
      exact hread
    · rw [hread] at h
      cases h

/-- A lexeme on a line of its own is one symbol more. -/
theorem symbols_line {c : Char} {cs trivia ds : List Char}
    (hgap : Gap.read cs = .closed trivia (c :: ds))
    (hk : (Lexeme.read c ds).kind ≠ .unterminated) (rest : List Char) :
    symbols ((Lexeme.read c ds).literal ++ '\n' :: rest) =
      ⟨(Lexeme.read c ds).kind, String.ofList (Lexeme.read c ds).literal⟩ :: symbols rest := by
  obtain ⟨hblank, hopens⟩ := (Gap.read_closed hgap).1 c ds rfl
  obtain ⟨w, hw⟩ := Lexeme.exists_literal_eq_cons c ds
  have hagain := Lexeme.read_line rest hk
  have htext : w ++ (Lexeme.read c ds).rest = ds := by
    have htext := Lexeme.text_read c ds
    rw [Lexeme.text, hw] at htext
    exact (List.cons.inj htext).2
  have hfirst : (w ++ '\n' :: rest).head?.any (Gap.opensComment c) = false := by
    cases w with
    | nil => simp [Gap.not_opensComment_lineFeed]
    | cons d w =>
      rw [← htext] at hopens
      exact hopens
  rw [hw, List.tail_cons] at hagain
  rw [hw, List.cons_append, symbols_lexeme hblank hfirst hagain hk, symbols_lineFeed]

/-! ### Texts laid out anew -/

/-- The literals of symbols, each on a line of its own. What breaks off has no line feed behind it. -/
def Symbol.lines : List Symbol → List Char
  | [] => []
  | x :: xs =>
    if x.kind = .unterminated then x.literal.toList else x.literal.toList ++ '\n' :: lines xs

/-- The symbols of a text, each on a line of its own, are lexed to the same symbols. -/
theorem symbols_lines (cs : List Char) : symbols (Symbol.lines (symbols cs)) = symbols cs := by
  -- By induction on the length: a gap, a lexeme, and what is behind it.
  induction hn : cs.length using Nat.strongRecOn generalizing cs with
  | _ n ih =>
    subst hn
    rw [symbols_eq cs]
    have hlength := congrArg List.length (Gap.text_read cs)
    cases hg : Gap.read cs with
    | unclosed trivia comment =>
      have hlines : Symbol.lines [⟨.unterminated, String.ofList comment⟩] = comment := by
        simp [Symbol.lines]
      rw [Gap.symbols, hlines, symbols_eq, Gap.read_comment hg]
      rfl
    | closed trivia ds =>
      cases ds with
      | nil => simp [Gap.symbols, Symbol.lines]
      | cons c ds =>
        have hlt := Lexeme.length_rest_read c ds
        simp only [hg, Gap.text, List.length_append] at hlength
        simp only [Gap.symbols]
        by_cases hk : (Lexeme.read c ds).kind = .unterminated
        · have hall : (Lexeme.read c ds).literal = c :: ds := by
            have htext := Lexeme.text_read c ds
            rwa [Lexeme.text, Lexeme.rest_of_unterminated hk, List.append_nil] at htext
          rw [if_pos hk, Symbol.lines, if_pos hk, String.toList_ofList, hall, symbols_eq,
            Gap.read_behind hg]
          simp [Gap.symbols, hk, hall]
        · rw [if_neg hk, Symbol.lines, if_neg hk, String.toList_ofList, symbols_line hg hk,
            ih _ (by omega) _ rfl]

/-- What ends a stream of symbols: the end, unless the last of them breaks off. -/
def Symbol.ending (xs : List Symbol) : List Symbol :=
  if xs.getLast?.any fun x => x.kind == .unterminated then [] else [⟨.endOfInput, ""⟩]

/-- Where at most the last symbol breaks off, the lines are the literals with line feeds between them,
the empty one of the end included. -/
theorem Symbol.lines_eq_intercalate {xs : List Symbol}
    (h : ∀ x ∈ xs.dropLast, x.kind ≠ .unterminated) :
    lines xs = ['\n'].intercalate ((xs ++ ending xs).map fun x => x.literal.toList) := by
  induction xs with
  | nil => simp [lines, ending]
  | cons x xs ih =>
    cases xs with
    | nil => by_cases hx : x.kind = .unterminated <;> simp [lines, ending, hx]
    | cons y xs =>
      rw [List.dropLast_cons_cons] at h
      obtain ⟨hx, hxs⟩ := List.forall_mem_cons.1 h
      have hending : ending (x :: y :: xs) = ending (y :: xs) := by simp [ending]
      rw [lines, if_neg hx, ih hxs, hending]
      simp

namespace TokenStream

/-- The tokens of a text, each on a line of its own. -/
def relaid (s : TokenStream) : String := "\n".intercalate (s.toList.map Token.literal)

/-- The symbols of a text and of what ends it. -/
theorem map_symbol_toList (text : String) : (ofText text).toList.map Token.symbol =
    symbols text.toList ++ Symbol.ending (symbols text.toList) := by
  have hlast : (symbols text.toList).getLast?.any (fun x => x.kind == .unterminated) =
      (ofText text).isTruncated := by
    rw [← symbols_toList, List.getLast?_map, Option.any_map]
    rfl
  obtain ⟨line, hstop⟩ := Lexer.exists_drain_eq_eof (Lexer.ofText text)
  rw [toList, Symbol.ending, hlast, ← symbols_toList]
  cases (ofText text).isTruncated with
  | true => simp
  | false =>
    have hend : (ofText text).stop.symbol = ⟨.endOfInput, ""⟩ := congrArg Token.symbol hstop
    simp [hend]

theorem toList_relaid (text : String) :
    (ofText text).relaid.toList = Symbol.lines (symbols text.toList) := by
  have hinit : ∀ x ∈ (symbols text.toList).dropLast, x.kind ≠ .unterminated := by
    intro x hx
    rw [symbols, ← List.map_dropLast] at hx
    obtain ⟨t, ht, rfl⟩ := List.mem_map.1 hx
    exact Lexer.kind_ne_of_mem_dropLast ht
  rw [Symbol.lines_eq_intercalate hinit, ← map_symbol_toList, relaid, String.toList_intercalate,
    List.map_map, List.map_map]
  rfl

/-- **The layout of a text is no part of its tokens**: on lines of their own they are lexed again. -/
theorem symbols_relaid (text : String) :
    symbols (ofText text).relaid.toList = symbols text.toList := by
  rw [toList_relaid, symbols_lines]

end TokenStream

end SchemaPatch
