import SchemaPatch.Text.Classes
import SchemaPatch.Token.Basic

/-!
# Lexemes

What stands at the front of a text: first a gap, that is blanks and comments, then a lexeme, the
text of one token. Every scanner here splits its text into what it takes and what it leaves.

Main statements: a gap and a lexeme each give back the text they were read from (`Gap.text_read`,
`Lexeme.text_read`), and what a lexeme leaves is shorter (`Lexeme.length_rest_read`).
-/

namespace SchemaPatch

/-- A scan that succeeded: what it took and what it left. -/
abbrev Split := List Char × List Char

/-- The text that was scanned. -/
def Split.text (s : Split) : List Char := s.1 ++ s.2

/-- Puts characters in front of what a scan took. -/
def Split.after (front : List Char) (s : Split) : Split := (front ++ s.1, s.2)

@[simp] theorem Split.text_after (front : List Char) (s : Split) :
    (s.after front).text = front ++ s.text := by
  simp [Split.after, Split.text]

/-! ### Gaps -/

/-- What lies before the next token of a text. -/
inductive Gap where
  /-- Blanks and comments, and then the next token or the end of the text. -/
  | closed (trivia rest : List Char)
  /-- Blanks and comments, and then a block comment that never ends. -/
  | unclosed (trivia comment : List Char)
  deriving DecidableEq, Repr

namespace Gap

/-- The text that a gap was read from. -/
def text : Gap → List Char
  | closed trivia rest => trivia ++ rest
  | unclosed trivia comment => trivia ++ comment

/-- Puts characters in front of the trivia. -/
def after (front : List Char) : Gap → Gap
  | closed trivia rest => closed (front ++ trivia) rest
  | unclosed trivia comment => unclosed (front ++ trivia) comment

@[simp] theorem text_after (front : List Char) (g : Gap) :
    (g.after front).text = front ++ g.text := by
  cases g <;> simp [after, text]

/-- Takes the rest of a block comment with `depth` comments still to be closed, as comments nest.
`none` if the text ends before that. -/
def blockComment (depth : Nat) : List Char → Option Split
  | '/' :: '*' :: cs => (blockComment (depth + 1) cs).map (.after ['/', '*'])
  | '*' :: '/' :: cs =>
    if depth ≤ 1 then some (['*', '/'], cs)
    else (blockComment (depth - 1) cs).map (.after ['*', '/'])
  | c :: cs => (blockComment depth cs).map (.after [c])
  | [] => none

theorem text_of_blockComment {depth : Nat} {cs : List Char} {s : Split}
    (h : blockComment depth cs = some s) : s.text = cs := by
  fun_induction blockComment depth cs generalizing s with
  | case1 depth cs ih | case3 depth cs _ ih | case4 depth c cs _ _ ih =>
    obtain ⟨s', hs, rfl⟩ := Option.map_eq_some_iff.1 h
    simp [ih hs]
  | case2 depth cs _ => cases h; rfl
  | case5 => cases h

theorem length_blockComment_le {depth : Nat} {cs : List Char} {s : Split}
    (h : blockComment depth cs = some s) : s.2.length ≤ cs.length := by
  have := congrArg List.length (text_of_blockComment h)
  simp only [Split.text, List.length_append] at this
  omega

/-- Whether a character belongs to the line it stands on. -/
def inLine (c : Char) : Bool := c != '\n'

/-- Takes the blanks and comments at the front of a text. A line comment leaves the line feed that
ends it, which is blank. -/
def read (cs : List Char) : Gap :=
  let blanks := cs.takeWhile isBlank
  match _h : cs.dropWhile isBlank with
  | '-' :: '-' :: line =>
    (read (line.dropWhile inLine)).after (blanks ++ '-' :: '-' :: line.takeWhile inLine)
  | '/' :: '*' :: body =>
    match _hb : blockComment 1 body with
    | some (comment, rest) => (read rest).after (blanks ++ '/' :: '*' :: comment)
    | none => .unclosed blanks ('/' :: '*' :: body)
  | rest => .closed blanks rest
termination_by cs.length
decreasing_by
  all_goals
    have hle := (List.dropWhile_sublist isBlank (l := cs)).length_le
    rw [_h] at hle
    simp only [List.length_cons] at hle
  · have := (List.dropWhile_sublist inLine (l := line)).length_le
    omega
  · have : rest.length ≤ body.length := length_blockComment_le _hb
    omega

theorem text_read (cs : List Char) : (read cs).text = cs := by
  fun_induction read cs with
  | case1 cs blanks line h ih =>
    rw [text_after, ih, List.append_assoc, List.cons_append, List.cons_append,
      List.takeWhile_append_dropWhile, ← h, List.takeWhile_append_dropWhile]
  | case2 cs blanks body h comment rest hb ih =>
    have := text_of_blockComment hb
    simp only [Split.text] at this
    rw [text_after, ih, List.append_assoc, List.cons_append, List.cons_append, this, ← h,
      List.takeWhile_append_dropWhile]
  | case3 cs blanks body h hb => rw [text, ← h, List.takeWhile_append_dropWhile]
  | case4 cs blanks _ _ => exact List.takeWhile_append_dropWhile

end Gap

/-! ### Lexemes -/

/-- The text of one token, and what follows it. -/
structure Lexeme where
  /-- The kind of the token. -/
  kind : Token.Kind
  /-- Its text. -/
  literal : List Char
  /-- What follows it. -/
  rest : List Char
  deriving DecidableEq, Repr

namespace Lexeme

/-- The text that a lexeme was read from. -/
def text (x : Lexeme) : List Char := x.literal ++ x.rest

/-- Takes the rest of a quoted name, closing quote included; two quotes in a row do not close it. -/
def quotedName : List Char → Option Split
  | '"' :: '"' :: cs => (quotedName cs).map (.after ['"', '"'])
  | '"' :: cs => some (['"'], cs)
  | c :: cs => (quotedName cs).map (.after [c])
  | [] => none

/-- Takes the rest of a string, closing quote included; two quotes in a row do not close it, nor
does a quote behind a backslash. -/
def quotedString : List Char → Option Split
  | '\'' :: '\'' :: cs => (quotedString cs).map (.after ['\'', '\''])
  | '\'' :: cs => some (['\''], cs)
  | '\\' :: '\'' :: cs => (quotedString cs).map (.after ['\\', '\''])
  | c :: cs => (quotedString cs).map (.after [c])
  | [] => none

/-- Takes a text up to the end of the first place where `mark` stands. -/
def through (mark : List Char) : List Char → Option Split
  | [] => none
  | c :: cs =>
    if mark.isPrefixOf (c :: cs) then some (mark, (c :: cs).drop mark.length)
    else (through mark cs).map (.after [c])

/-- Whether a character may begin a name or a dollar tag. -/
def beginsName (c : Char) : Bool := isAlphabetic c || c == '_'

/-- Whether a character may stand in a dollar tag after its first one. -/
def inTag (c : Char) : Bool := isAlphabetic c || isNumeral c || c == '_'

/-- Whether a character may stand in a name after its first one. -/
def inName (c : Char) : Bool := inTag c || c == '$'

/-- Takes the tag, possibly empty, at the front of a text. -/
def tag : List Char → Split
  | c :: cs => if beginsName c then (c :: cs.takeWhile inTag, cs.dropWhile inTag) else ([], c :: cs)
  | [] => ([], [])

/-- The kind of a word: a keyword, or a name. -/
def wordKind (word : List Char) : Token.Kind :=
  match Keyword.ofWord? (String.ofList word) with
  | some k => .keyword k
  | none => .identifier

/-- A lexeme of one character. -/
def single (kind : Token.Kind) (c : Char) (cs : List Char) : Lexeme := ⟨kind, [c], cs⟩

/-- A lexeme that begins with `c` and goes on as `scan` says. If the scan failed, the lexeme is the
whole text and ends it. -/
def ofScan (kind : Token.Kind) (c : Char) (cs : List Char) (scan : Option Split) : Lexeme :=
  match scan with
  | some s => ⟨kind, c :: s.1, s.2⟩
  | none => ⟨.unterminated, c :: cs, []⟩

/-- A number that begins with a digit. The point may be its last character. -/
def number (c : Char) (cs : List Char) : Lexeme :=
  match cs.dropWhile Char.isDigit with
  | '.' :: rest =>
    ⟨.number, c :: (cs.takeWhile Char.isDigit ++ '.' :: rest.takeWhile Char.isDigit),
      rest.dropWhile Char.isDigit⟩
  | rest => ⟨.number, c :: cs.takeWhile Char.isDigit, rest⟩

/-- A string between dollar tags, whose first dollar sign is before `cs`. A dollar sign that no
second one follows is a stray character. -/
def dollarString (cs : List Char) : Lexeme :=
  match (tag cs).2 with
  | '$' :: body =>
    ofScan .string '$' cs
      ((through ('$' :: (tag cs).1 ++ ['$']) body).map (.after ((tag cs).1 ++ ['$'])))
  | _ => single .stray '$' cs

/-- The lexeme at the front of the text `c :: cs`. -/
def read (c : Char) (cs : List Char) : Lexeme :=
  match c with
  | '(' => single .leftParen c cs
  | ')' => single .rightParen c cs
  | ',' => single .comma c cs
  | ';' => single .semicolon c cs
  | '+' => single .plus c cs
  | '-' => single .minus c cs
  | '*' => single .asterisk c cs
  | '/' => single .slash c cs
  | '=' => single .equal c cs
  | '.' =>
    if cs.head?.any Char.isDigit then
      ⟨.number, c :: cs.takeWhile Char.isDigit, cs.dropWhile Char.isDigit⟩
    else single .dot c cs
  | ':' =>
    match cs with
    | ':' :: rest => ⟨.typecast, [c, ':'], rest⟩
    | _ => single .stray c cs
  | '\'' => ofScan .string c cs (quotedString cs)
  | '"' => ofScan .identifier c cs (quotedName cs)
  | '$' => dollarString cs
  | '\\' =>
    if cs.head?.any isAlphabetic then
      ⟨.metaCommand, c :: cs.takeWhile Gap.inLine, cs.dropWhile Gap.inLine⟩
    else single .stray c cs
  | _ =>
    if c.isDigit then number c cs
    else if beginsName c then
      ⟨wordKind (c :: cs.takeWhile inName), c :: cs.takeWhile inName, cs.dropWhile inName⟩
    else single .stray c cs

/-- How many lines a lexeme moves the line count on. The line feeds of a dollar-quoted string that
never ends are not counted. -/
def lineFeeds (x : Lexeme) : Nat :=
  if x.kind = .unterminated ∧ x.literal.head? = some '$' then 0 else x.literal.count '\n'

/-! ### Nothing is lost -/

theorem text_of_quotedName {cs : List Char} {s : Split} (h : quotedName cs = some s) :
    s.text = cs := by
  fun_induction quotedName cs generalizing s with
  | case1 cs ih | case3 c cs _ _ ih =>
    obtain ⟨s', hs, rfl⟩ := Option.map_eq_some_iff.1 h
    simp [ih hs]
  | case2 cs _ => cases h; rfl
  | case4 => cases h

theorem text_of_quotedString {cs : List Char} {s : Split} (h : quotedString cs = some s) :
    s.text = cs := by
  fun_induction quotedString cs generalizing s with
  | case1 cs ih | case3 cs ih | case4 c cs _ _ _ ih =>
    obtain ⟨s', hs, rfl⟩ := Option.map_eq_some_iff.1 h
    simp [ih hs]
  | case2 cs _ => cases h; rfl
  | case5 => cases h

theorem text_of_through {mark cs : List Char} {s : Split} (h : through mark cs = some s) :
    s.text = cs := by
  induction cs generalizing s with
  | nil => cases h
  | cons c cs ih =>
    rw [through] at h
    split at h
    · next hp =>
      cases h
      obtain ⟨rest, hrest⟩ := List.isPrefixOf_iff_prefix.1 hp
      rw [Split.text, ← hrest, List.drop_left]
    · obtain ⟨s', hs, rfl⟩ := Option.map_eq_some_iff.1 h
      simp [ih hs]

theorem text_tag (cs : List Char) : (tag cs).text = cs := by
  cases cs with
  | nil => rfl
  | cons c cs =>
    rw [tag]
    split
    · simp [Split.text]
    · rfl

@[simp] theorem text_single (kind : Token.Kind) (c : Char) (cs : List Char) :
    (single kind c cs).text = c :: cs := rfl

theorem text_ofScan {kind : Token.Kind} {c : Char} {cs : List Char} {scan : Option Split}
    (h : ∀ s, scan = some s → s.text = cs) : (ofScan kind c cs scan).text = c :: cs := by
  cases scan with
  | none => simp [ofScan, text]
  | some s => simpa [ofScan, text, Split.text] using h s rfl

theorem text_number (c : Char) (cs : List Char) : (number c cs).text = c :: cs := by
  rw [number]
  split
  · next rest h =>
    simp only [text, List.cons_append, List.append_assoc, List.takeWhile_append_dropWhile]
    rw [← h, List.takeWhile_append_dropWhile]
  · simp [text]

theorem text_dollarString (cs : List Char) : (dollarString cs).text = '$' :: cs := by
  rw [dollarString]
  split
  · next body h =>
    refine text_ofScan fun s hs => ?_
    obtain ⟨s', hs', rfl⟩ := Option.map_eq_some_iff.1 hs
    have htag := text_tag cs
    rw [Split.text, h] at htag
    rw [Split.text_after, text_of_through hs', List.append_assoc, List.singleton_append, htag]
  · rfl

theorem text_read (c : Char) (cs : List Char) : (read c cs).text = c :: cs := by
  unfold read
  split
  case h_10 => split <;> simp [text, single]
  case h_11 => split <;> simp [text, single]
  case h_12 => exact text_ofScan fun _ => text_of_quotedString
  case h_13 => exact text_ofScan fun _ => text_of_quotedName
  case h_14 => exact text_dollarString cs
  case h_15 => split <;> simp [text, single]
  case h_16 =>
    split
    · exact text_number c cs
    · split <;> simp [text, single]
  all_goals rfl

/-! ### Something is taken -/

@[simp] theorem head_single (kind : Token.Kind) (c : Char) (cs : List Char) :
    (single kind c cs).literal.head? = some c := rfl

@[simp] theorem head_ofScan (kind : Token.Kind) (c : Char) (cs : List Char) (scan : Option Split) :
    (ofScan kind c cs scan).literal.head? = some c := by
  cases scan <;> rfl

@[simp] theorem head_number (c : Char) (cs : List Char) :
    (number c cs).literal.head? = some c := by
  rw [number]
  split <;> rfl

@[simp] theorem head_dollarString (cs : List Char) :
    (dollarString cs).literal.head? = some '$' := by
  rw [dollarString]
  split <;> simp

/-- A lexeme begins with the first character of the text. -/
theorem head_read (c : Char) (cs : List Char) : (read c cs).literal.head? = some c := by
  unfold read
  split
  case h_10 => split <;> rfl
  case h_11 => split <;> rfl
  case h_15 => split <;> rfl
  case h_16 =>
    split
    · simp
    · split <;> rfl
  all_goals simp

theorem length_rest_read (c : Char) (cs : List Char) :
    (read c cs).rest.length < (c :: cs).length := by
  have h := congrArg List.length (text_read c cs)
  have hhead := head_read c cs
  cases hl : (read c cs).literal with
  | nil => rw [hl] at hhead; cases hhead
  | cons d ds =>
    simp only [text, hl, List.length_append, List.length_cons] at h
    simp only [List.length_cons]
    omega

end Lexeme

end SchemaPatch
