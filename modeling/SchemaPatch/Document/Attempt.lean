import SchemaPatch.Grammar.Statement
import SchemaPatch.Token.Stream

/-!
# Attempts at statements

An attempt holds what came of one statement. A reader makes its attempts token by token. Here the same
is said of all tokens at once: they are cut into portions, one to each statement, up to a semicolon or
the end, or a single command to the terminal client where a statement could begin. Each portion is read
by itself.
-/

namespace SchemaPatch

/-- The tokens of one statement. -/
inductive Portion where
  /-- A command to the terminal client, which ends with its line. -/
  | metaCommand (t : Token)
  /-- Tokens, and the semicolon or end of the document that ends them. -/
  | statement (body : List Token) (stop : Token)
  deriving DecidableEq, Repr

/-- Whether a token does not end a statement. -/
def Token.isBody (t : Token) : Bool := t.kind != .semicolon

/-- The first portion of a stream, and the stream behind it. -/
def TokenStream.portion (s : TokenStream) : Portion × TokenStream :=
  match s.tokens with
  | t :: ts =>
    if t.kind = .metaCommand then (.metaCommand t, ⟨ts, s.stop⟩)
    else
      match (t :: ts).dropWhile Token.isBody with
      | semicolon :: rest => (.statement ((t :: ts).takeWhile Token.isBody) semicolon, ⟨rest, s.stop⟩)
      | [] => (.statement (t :: ts) s.stop, ⟨[], s.stop⟩)
  | [] => (.statement [] s.stop, s)

/-- What came of a statement. -/
inductive Outcome where
  /-- It was read. -/
  | parsed (s : Statement)
  /-- It was passed over. -/
  | skipped
  /-- It was refused for what shows at a token. -/
  | failed (cause : Fault.Cause) (found : Token)
  deriving DecidableEq, Repr

/-- One statement, as it was read. -/
structure Attempt where
  /-- Its first token. -/
  lead : Token
  /-- What was passed over, in order. -/
  remarks : List Remark
  /-- What came of it. -/
  outcome : Outcome
  deriving DecidableEq, Repr

namespace Attempt

/-- The statement that was read, if one was. -/
def statement? (a : Attempt) : Option Statement :=
  match a.outcome with
  | .parsed s => some s
  | _ => none

/-- What comes of a reading of the tokens `body`, which `stop` ends. A statement has to take all the
tokens, and one that breaks off is never passed over. -/
def settle (body : List Token) (stop : Token) :
    Except Fault (Option (Statement × List Token)) → Outcome
  | .error f => .failed f.cause (f.found.getD stop)
  | .ok (some (s, [])) => .parsed s
  | .ok (some (_, rest)) =>
    let f := Rule.unexpected Token.Kind.semicolon.describe rest
    .failed f.cause (f.found.getD stop)
  | .ok none =>
    match body.getLast? with
    | some t => if t.kind = .unterminated then .failed .illegal t else .skipped
    | none => .skipped

/-- Reads a portion. -/
def ofPortion : Portion → Attempt
  | .metaCommand t => ⟨t, [.metaCommand t], .skipped⟩
  | .statement body stop =>
    let r := Reading.ofTokens body stop
    ⟨body.headD stop, r.remarks, settle body stop r.result⟩

end Attempt

namespace TokenStream

/-- Behind a portion there is less than before, unless nothing was left. -/
theorem length_portion_lt {s : TokenStream} (h : s.tokens ≠ []) :
    s.portion.2.tokens.length < s.tokens.length := by
  unfold portion
  cases hs : s.tokens with
  | nil => exact absurd hs h
  | cons t ts =>
    dsimp only
    split
    · simp
    · have hle := (List.dropWhile_sublist Token.isBody (l := t :: ts)).length_le
      split
      · next hd =>
        rw [hd] at hle
        simp only [List.length_cons] at hle ⊢
        omega
      · simp

/-- Reads the first statement of a stream, also where nothing is left. -/
def attempt (s : TokenStream) : Attempt × TokenStream :=
  (.ofPortion s.portion.1, s.portion.2)

/-- Cuts a stream into portions. -/
def portions (s : TokenStream) : List Portion :=
  if _h : s.tokens = [] then [] else s.portion.1 :: s.portion.2.portions
termination_by s.tokens.length
decreasing_by exact length_portion_lt _h

/-- Reads all statements of a stream. -/
def attempts (s : TokenStream) : List Attempt := s.portions.map .ofPortion

/-- A stream as statements are read from it. Reading looks at the first two tokens at once and only
at the first of them for a document that breaks off: of two tokens in all, an unterminated second
one counts as a stray character. -/
def primed (s : TokenStream) : TokenStream :=
  match s.tokens with
  | [t, u] =>
    if u.kind = .unterminated then ⟨[t, { u with kind := .stray }], s.stop⟩ else s
  | _ => s

end TokenStream

end SchemaPatch
