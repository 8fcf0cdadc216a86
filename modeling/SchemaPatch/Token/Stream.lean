import SchemaPatch.Token.Lexeme

/-!
# Token streams

A lexer hands out the tokens of a text one by one, each with the line it starts on. It is finished
once it has handed out the end of the text or an unterminated token; from then on it keeps handing
out the end. Draining a lexer gives all its tokens and, apart from them, the token that ends the
text.
-/

namespace SchemaPatch

/-- A reader that hands out the tokens of a text one by one. -/
structure Lexer where
  /-- What is still to be read. -/
  rest : List Char
  /-- The line that `rest` starts on. -/
  line : Nat
  /-- Whether the end, or an unterminated token, has been handed out. -/
  finished : Bool
  deriving DecidableEq, Repr

namespace Lexer

/-- A lexer at the start of a text. -/
def ofText (s : String) : Lexer := ⟨s.toList, 1, false⟩

/-- How many line feeds there are in a text. -/
def lineFeeds (cs : List Char) : Nat := cs.count '\n'

/-- The next token, and the lexer behind it. -/
def next (l : Lexer) : Token × Lexer :=
  if l.finished then (.eof l.line, l)
  else
    match Gap.read l.rest with
    | .unclosed trivia comment =>
      let line := l.line + lineFeeds trivia
      (⟨.unterminated, String.ofList comment, line⟩, ⟨[], line + lineFeeds comment, true⟩)
    | .closed trivia [] =>
      let line := l.line + lineFeeds trivia
      (.eof line, ⟨[], line, true⟩)
    | .closed trivia (c :: cs) =>
      let line := l.line + lineFeeds trivia
      let x := Lexeme.read c cs
      (⟨x.kind, String.ofList x.literal, line⟩,
        ⟨x.rest, line + x.lineFeeds, x.kind == .unterminated⟩)

/-- The next token for a reader who stops with the lexer: `none` once it is finished. -/
def next? (l : Lexer) : Option Token × Lexer :=
  if l.finished then (none, l) else (some l.next.1, l.next.2)

/-- How many more tokens a lexer can hand out at most, the end not counted. -/
def budget (l : Lexer) : Nat := if l.finished then 0 else l.rest.length + 1

theorem budget_next_lt {l : Lexer} (h : l.next.1.isEof = false) : l.next.2.budget < l.budget := by
  unfold next at h ⊢
  split at h
  · simp [Token.isEof, Token.eof] at h
  · next hf =>
    simp only [Bool.not_eq_true] at hf
    simp only [hf, Bool.false_eq_true, if_false]
    have htext := congrArg List.length (Gap.text_read l.rest)
    cases hg : Gap.read l.rest with
    | unclosed trivia comment => simp [budget, hf]
    | closed trivia rest =>
      cases rest with
      | nil => simp [budget, hf]
      | cons c cs =>
        simp only [hg, Gap.text, List.length_append] at htext
        have := Lexeme.length_rest_read c cs
        simp only [budget, hf, Bool.false_eq_true, if_false]
        split <;> omega

/-- The tokens that a lexer hands out before the end, and the token that stands for the end. -/
def drain (l : Lexer) : List Token × Token :=
  match _h : l.next with
  | (t, l') =>
    if _ht : t.isEof then ([], t)
    else
      let d := l'.drain
      (t :: d.1, d.2)
termination_by l.budget
decreasing_by
  have hlt := budget_next_lt (l := l)
  rw [_h] at hlt
  exact hlt (by simpa using _ht)

end Lexer

/-- The tokens of a text: those before its end, and the token that stands for the end. -/
structure TokenStream where
  /-- The tokens before the end. -/
  tokens : List Token
  /-- The end of the text. -/
  stop : Token
  deriving DecidableEq, Repr

namespace TokenStream

/-- The tokens of a text. -/
def ofText (s : String) : TokenStream :=
  let d := (Lexer.ofText s).drain
  ⟨d.1, d.2⟩

/-- Whether the text breaks off in a string, a quoted name or a block comment. -/
def isTruncated (s : TokenStream) : Bool :=
  s.tokens.getLast?.any fun t => t.kind == .unterminated

/-- The tokens as a reader gets them who stops with the lexer: the end is the last one, unless an
unterminated token took its place. -/
def toList (s : TokenStream) : List Token :=
  if s.isTruncated then s.tokens else s.tokens ++ [s.stop]

end TokenStream

end SchemaPatch
