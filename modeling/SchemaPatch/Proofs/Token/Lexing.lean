import SchemaPatch.Proofs.Token.Gap
import SchemaPatch.Token.Stream

/-!
# The symbols of a text

What a text is lexed to, apart from the lines of the tokens, is `symbols`; it does not depend on the
line the text starts on. A blank or a comment in front of a text makes no difference
(`symbols_blank`, `symbols_lineComment`), and a lexeme is one symbol more (`symbols_lexeme`).
-/

namespace SchemaPatch

/-- What is made of a text behind its gap. -/
def Gap.symbols (then_ : List Char → List Symbol) : Gap → List Symbol
  | unclosed _ comment => [⟨.unterminated, String.ofList comment⟩]
  | closed _ [] => []
  | closed _ (c :: cs) =>
    let x := Lexeme.read c cs
    ⟨x.kind, String.ofList x.literal⟩ :: if x.kind = .unterminated then [] else then_ x.rest

namespace Lexer

theorem drain_eq (l : Lexer) : l.drain =
    if l.next.1.isEof then ([], l.next.1) else (l.next.1 :: l.next.2.drain.1, l.next.2.drain.2) := by
  rw [drain]
  split
  next t l' h =>
    simp only [h]
    split <;> rfl

theorem drain_of_isEof {l : Lexer} (h : l.next.1.isEof) : l.drain = ([], l.next.1) := by
  rw [drain_eq, if_pos h]

theorem drain_of_not_isEof {l : Lexer} (h : l.next.1.isEof = false) :
    l.drain = (l.next.1 :: l.next.2.drain.1, l.next.2.drain.2) := by
  rw [drain_eq, if_neg (by simp [h])]

/-- A lexer hands out the end, or a token and then what the lexer behind it hands out. -/
@[elab_as_elim]
theorem drain_induction {motive : Lexer → Prop} (stop : ∀ l : Lexer, l.next.1.isEof → motive l)
    (token : ∀ l : Lexer, l.next.1.isEof = false → motive l.next.2 → motive l) (l : Lexer) :
    motive l := by
  induction hb : l.budget using Nat.strongRecOn generalizing l with
  | _ b ih =>
    subst hb
    cases he : l.next.1.isEof with
    | true => exact stop l he
    | false => exact token l he (ih _ (budget_next_lt he) _ rfl)

@[simp] theorem drain_finished (cs : List Char) (line : Nat) :
    (Lexer.mk cs line true).drain = ([], .eof line) := by
  rw [drain_eq]
  rfl

end Lexer

namespace Lexeme

/-- No lexeme is the end of a text. -/
theorem kind_read_ne (c : Char) (cs : List Char) : (read c cs).kind ≠ .endOfInput := by
  have hscan : ∀ {kind : Token.Kind} {c : Char} {cs : List Char} {scan : Option Split},
      kind ≠ .endOfInput → (ofScan kind c cs scan).kind ≠ .endOfInput := by
    intro kind c cs scan hk
    cases scan with
    | none => simp [ofScan]
    | some s => exact hk
  unfold read
  split
  case h_10 => split <;> simp [single]
  case h_11 => split <;> simp [single]
  case h_12 => exact hscan (by simp)
  case h_13 => exact hscan (by simp)
  case h_14 =>
    rw [dollarString]
    split
    · exact hscan (by simp)
    · simp [single]
  case h_15 => split <;> simp [single]
  case h_16 =>
    split
    · rw [number]
      split <;> simp
    · split
      · simp only [wordKind]
        split <;> simp
      · simp [single]
  all_goals simp [single]

/-- The line feeds of a lexeme that does not break off are all counted. -/
theorem lineFeeds_of_ne {x : Lexeme} (h : x.kind ≠ .unterminated) :
    x.lineFeeds = Lexer.lineFeeds x.literal := if_neg fun hx => h hx.1

end Lexeme

/-! ### What a lexer hands out first -/

namespace Lexer

theorem lineFeeds_append (cs ds : List Char) : lineFeeds (cs ++ ds) = lineFeeds cs + lineFeeds ds :=
  List.count_append

variable {cs trivia : List Char} (line : Nat)

theorem next_of_unclosed {comment : List Char} (h : Gap.read cs = .unclosed trivia comment) :
    (Lexer.mk cs line false).next =
      (⟨.unterminated, String.ofList comment, line + lineFeeds trivia⟩,
        ⟨[], line + lineFeeds trivia + lineFeeds comment, true⟩) := by
  simp [next, h]

theorem next_of_end (h : Gap.read cs = .closed trivia []) :
    (Lexer.mk cs line false).next =
      (.eof (line + lineFeeds trivia), ⟨[], line + lineFeeds trivia, true⟩) := by
  simp [next, h]

theorem next_of_lexeme {c : Char} {rest : List Char} (h : Gap.read cs = .closed trivia (c :: rest))
    {x : Lexeme} (hx : Lexeme.read c rest = x) :
    (Lexer.mk cs line false).next =
      (⟨x.kind, String.ofList x.literal, line + lineFeeds trivia⟩,
        ⟨x.rest, line + lineFeeds trivia + x.lineFeeds, x.kind == .unterminated⟩) := by
  simp [next, h, hx]

theorem drain_of_unclosed {comment : List Char} (h : Gap.read cs = .unclosed trivia comment) :
    (Lexer.mk cs line false).drain =
      ([⟨.unterminated, String.ofList comment, line + lineFeeds trivia⟩],
        .eof (line + lineFeeds trivia + lineFeeds comment)) := by
  rw [drain_eq, next_of_unclosed line h, drain_finished]
  rfl

theorem drain_of_end (h : Gap.read cs = .closed trivia []) :
    (Lexer.mk cs line false).drain = ([], .eof (line + lineFeeds trivia)) := by
  rw [drain_eq, next_of_end line h]
  rfl

theorem drain_of_lexeme {c : Char} {rest : List Char} (h : Gap.read cs = .closed trivia (c :: rest))
    {x : Lexeme} (hx : Lexeme.read c rest = x) {behind : Lexer}
    (hbehind : behind = ⟨x.rest, line + lineFeeds trivia + x.lineFeeds, x.kind == .unterminated⟩) :
    (Lexer.mk cs line false).drain =
      (⟨x.kind, String.ofList x.literal, line + lineFeeds trivia⟩ :: behind.drain.1,
        behind.drain.2) := by
  have hkind : x.kind ≠ .endOfInput := hx ▸ Lexeme.kind_read_ne c rest
  rw [drain_eq, next_of_lexeme line h hx, hbehind]
  simp [Token.isEof, hkind]

end Lexer

/-! ### Symbols -/

/-- The symbols of a text. -/
def symbols (cs : List Char) : List Symbol := (Lexer.mk cs 1 false).drain.1.map Token.symbol

theorem symbols_toList (s : String) :
    (TokenStream.ofText s).tokens.map Token.symbol = symbols s.toList := rfl

/-- What is lexed behind a gap, as the line count goes on. -/
theorem Lexer.map_symbol_drain (cs : List Char) (line : Nat) : ∃ line',
    (Lexer.mk cs line false).drain.1.map Token.symbol =
      (Gap.read cs).symbols fun rest => (Lexer.mk rest line' false).drain.1.map Token.symbol := by
  rw [drain_eq]
  unfold next
  dsimp only
  cases Gap.read cs with
  | unclosed trivia comment =>
    exact ⟨0, by simp [Gap.symbols, Token.isEof, Token.symbol]⟩
  | closed trivia rest =>
    cases rest with
    | nil => exact ⟨0, by simp [Gap.symbols, Token.isEof, Token.eof]⟩
    | cons c rest =>
      have hk := Lexeme.kind_read_ne c rest
      refine ⟨line + lineFeeds trivia + (Lexeme.read c rest).lineFeeds, ?_⟩
      simp only [Bool.false_eq_true, if_false, Token.isEof, beq_iff_eq, hk, Gap.symbols,
        List.map_cons, Token.symbol]
      by_cases hu : (Lexeme.read c rest).kind = .unterminated
      · simp [hu]
      · rw [if_neg hu, beq_false_of_ne hu]

/-- Lexing does not depend on the line a text starts on. -/
theorem Lexer.map_symbol_drain_eq (cs : List Char) (line : Nat) :
    (Lexer.mk cs line false).drain.1.map Token.symbol = symbols cs := by
  induction hn : cs.length using Nat.strongRecOn generalizing cs line with
  | _ n ih =>
    subst hn
    rw [symbols]
    obtain ⟨line₁, h₁⟩ := map_symbol_drain cs line
    obtain ⟨line₂, h₂⟩ := map_symbol_drain cs 1
    rw [h₁, h₂]
    have htext := congrArg List.length (Gap.text_read cs)
    cases hg : Gap.read cs with
    | unclosed trivia comment => rfl
    | closed trivia rest =>
      cases rest with
      | nil => rfl
      | cons c rest =>
        have hlt := Lexeme.length_rest_read c rest
        simp only [hg, Gap.text, List.length_append] at htext
        simp only [Gap.symbols]
        rw [ih _ (by omega) _ line₁ rfl, ih _ (by omega) _ line₂ rfl]

/-- What a text is lexed to depends on its gap and its first lexeme. -/
theorem symbols_eq (cs : List Char) : symbols cs = (Gap.read cs).symbols symbols := by
  obtain ⟨line, h⟩ := Lexer.map_symbol_drain cs 1
  rw [symbols, h]
  congr 1
  funext rest
  exact Lexer.map_symbol_drain_eq rest line

theorem Gap.symbols_after (f : List Char → List Symbol) (front : List Char) (x : Gap) :
    (x.after front).symbols f = x.symbols f := by
  cases x with
  | unclosed => rfl
  | closed trivia rest => cases rest <;> rfl

/-! ### What stands in front -/

@[simp] theorem symbols_nil : symbols [] = [] := by
  rw [symbols_eq, Gap.read_eq]
  rfl

theorem symbols_blank {b : Char} (hb : isBlank b) (cs : List Char) :
    symbols (b :: cs) = symbols cs := by
  rw [symbols_eq, Gap.read_blank hb, Gap.symbols_after, ← symbols_eq]

@[simp] theorem symbols_space (cs : List Char) : symbols (' ' :: cs) = symbols cs :=
  symbols_blank (by decide) cs

@[simp] theorem symbols_lineFeed (cs : List Char) : symbols ('\n' :: cs) = symbols cs :=
  symbols_blank (by decide) cs

theorem symbols_lineComment (line : List Char) :
    symbols ('-' :: '-' :: line) = symbols (line.dropWhile Gap.inLine) := by
  rw [symbols_eq, Gap.read_lineComment, Gap.symbols_after, ← symbols_eq]

/-- A lexeme in front of a text is one symbol more. -/
theorem symbols_lexeme {c : Char} {cs : List Char} {x : Lexeme} (hc : isBlank c = false)
    (ho : cs.head?.any (Gap.opensComment c) = false) (hx : Lexeme.read c cs = x)
    (hk : x.kind ≠ .unterminated) :
    symbols (c :: cs) = ⟨x.kind, String.ofList x.literal⟩ :: symbols x.rest := by
  rw [symbols_eq, Gap.read_lexeme hc ho, Gap.symbols, hx]
  simp only [if_neg hk]

end SchemaPatch
