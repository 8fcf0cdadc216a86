import SchemaPatch.Document.Attempt

/-!
# Reading statements from a text

A reader holds the token it stands at and the one behind it, and gets the others from a lexer one by
one. It reads statement by statement. The end of a statement is looked for where reading it came to
an end, whether the statement was read, passed over or refused, so a statement that is refused takes
nothing from those behind it.

A string, a quoted name or a block comment that never ends shows by two things: the lexer was finished
when it handed out an illegal token, and the reader stands at an illegal token with the end of the
document behind it. A statement in which it is found is not passed over.
-/

namespace SchemaPatch

/-- A reader of statements. -/
structure Reader where
  /-- Hands out the tokens behind the two that are held. -/
  lexer : Lexer
  /-- The token that the reader stands at. -/
  current : Token
  /-- The token behind it. -/
  peek : Token
  /-- Whether the lexer was finished when it handed out an illegal token. -/
  truncated : Bool
  deriving DecidableEq, Repr

/-- What came of a statement, unless the document breaks off in a token that was passed over. -/
def Outcome.unlessBroken (o : Outcome) (broken : Option Token) : Outcome :=
  match o, broken with
  | .failed cause found, _ => .failed cause found
  | _, some t => .failed .illegal t
  | o, none => o

namespace Reader

/-- A reader at the start of a text. Only of the first token it is seen whether the text breaks off
in it. -/
def ofText (text : String) : Reader :=
  let first := (Lexer.ofText text).next
  let second := first.2.next
  ⟨second.2, first.1, second.1, first.1.kind.isIllegal && first.2.finished⟩

/-- Goes on to the next token. -/
def advance (r : Reader) : Reader :=
  let next := r.lexer.next
  ⟨next.2, r.peek, next.1, r.truncated || (next.1.kind.isIllegal && next.2.finished)⟩

/-- Whether the document ends here. -/
def isDone (r : Reader) : Bool := r.current.isEof

/-- Whether the statement ends here. -/
def atEnd (r : Reader) : Bool := r.current.kind == .semicolon || r.isDone

/-- Whether the document breaks off here. -/
def atBreak (r : Reader) : Bool := r.truncated && r.current.kind.isIllegal && r.peek.isEof

/-- The token that the reader stands at, as the rules of the grammar see it: an illegal token is a
stray character unless the document is known to break off in it. -/
def seen (r : Reader) : Token :=
  if r.current.kind.isIllegal then
    { r.current with kind := if r.atBreak then .unterminated else .stray }
  else r.current

/-! ### Every step takes something -/

/-- How many more tokens there can be at most. -/
def budget (r : Reader) : Nat :=
  if r.isDone then 0 else 1 + if r.peek.isEof then 0 else 1 + r.lexer.budget

theorem budget_advance_lt {r : Reader} (h : r.isDone = false) : r.advance.budget < r.budget := by
  have hdone : r.advance.isDone = r.peek.isEof := rfl
  simp only [budget, hdone, h, Bool.false_eq_true, if_false]
  split
  · omega
  · split
    · omega
    · next he =>
      have hlt : r.advance.lexer.budget < r.lexer.budget :=
        Lexer.budget_next_lt (by simpa [advance] using he)
      omega

theorem budget_advance_of_atEnd {r : Reader} (h : r.atEnd = false) : r.advance.budget < r.budget :=
  budget_advance_lt (by simpa [atEnd] using (Bool.or_eq_false_iff.1 h).2)

/-! ### Statements -/

/-- The tokens up to the end of the statement, as they are seen one after the other, and the reader at
this end. -/
def toEnd (r : Reader) : List Token × Reader :=
  if _h : r.atEnd then ([], r)
  else
    let x := r.advance.toEnd
    (r.seen :: x.1, x.2)
termination_by r.budget
decreasing_by exact budget_advance_of_atEnd (by simpa using _h)

/-- Goes on behind the end of the statement. Gives the token in which the document breaks off, if this
passes over it. -/
def synchronize (r : Reader) : Option Token × Reader :=
  if _h : r.atEnd then (none, if r.current.kind = .semicolon then r.advance else r)
  else
    let x := r.advance.synchronize
    (x.1.or (if r.atBreak then some r.seen else none), x.2)
termination_by r.budget
decreasing_by exact budget_advance_of_atEnd (by simpa using _h)

/-- Goes on over so many tokens, but not over the end of the statement. -/
def skip (r : Reader) : Nat → Reader
  | 0 => r
  | n + 1 => if r.atEnd then r else r.advance.skip n

/-- What comes of reading the tokens `body`, which `stop` ends, and the reader where this came to an
end. A statement that is read has to end there. A statement that is not read is given up where it
begins: where in it this happens makes no difference to what is found behind. -/
def conclude (r : Reader) (body : List Token) (stop : Token) :
    Except Fault (Option (Statement × List Token)) → Outcome × Reader
  | .error f => (.failed f.cause (f.found.getD stop), r)
  | .ok none => (.skipped, r)
  | .ok (some (s, rest)) =>
    let behind := r.skip (body.length - rest.length)
    if behind.atEnd then (.parsed s, behind)
    else
      let f := Rule.unexpected Token.Kind.semicolon.describe [behind.seen]
      (.failed f.cause (f.found.getD stop), behind)

/-- Reads one statement, or passes over one command to the terminal client, which ends with its line. -/
def attempt (r : Reader) : Attempt × Reader :=
  if r.current.kind = .metaCommand then
    (⟨r.current, [.metaCommand r.current], .skipped⟩, r.advance)
  else
    let x := r.toEnd
    let reading := Reading.ofTokens x.1 x.2.current
    let y := r.conclude x.1 x.2.current reading.result
    let z := y.2.synchronize
    (⟨r.seen, reading.remarks, y.1.unlessBroken z.1⟩, z.2)

/-! ### Every statement takes something -/

theorem budget_synchronize_le (r : Reader) : r.synchronize.2.budget ≤ r.budget := by
  fun_induction synchronize r with
  | case1 r h =>
    split
    · next hs =>
      have hnot : r.isDone = false := by simp [isDone, Token.isEof, hs]
      exact Nat.le_of_lt (budget_advance_lt hnot)
    · exact Nat.le_refl _
  | case2 r h x ih =>
    exact Nat.le_trans ih (Nat.le_of_lt (budget_advance_of_atEnd (by simpa using h)))

theorem budget_synchronize_lt {r : Reader} (h : r.isDone = false) :
    r.synchronize.2.budget < r.budget := by
  rw [synchronize]
  split
  · next hend =>
    have hs : r.current.kind = .semicolon := by simpa [atEnd, h] using hend
    simpa [hs] using budget_advance_lt h
  · exact Nat.lt_of_le_of_lt r.advance.budget_synchronize_le (budget_advance_lt h)

/-- Behind so many tokens there is no more than before, and less unless nothing was passed over. -/
theorem skip_eq_or_budget_lt (r : Reader) (n : Nat) : r.skip n = r ∨ (r.skip n).budget < r.budget := by
  induction n generalizing r with
  | zero => exact .inl rfl
  | succ n ih =>
    rw [skip]
    split
    · exact .inl rfl
    · next h =>
      have hlt := budget_advance_of_atEnd (by simpa using h)
      rcases ih r.advance with heq | hless
      · exact .inr (by rwa [heq])
      · exact .inr (Nat.lt_trans hless hlt)

theorem budget_attempt_lt {r : Reader} (h : r.isDone = false) : r.attempt.2.budget < r.budget := by
  have hbehind : ∀ n, (r.skip n).synchronize.2.budget < r.budget := by
    intro n
    rcases r.skip_eq_or_budget_lt n with heq | hlt
    · rw [heq]
      exact budget_synchronize_lt h
    · exact Nat.lt_of_le_of_lt (budget_synchronize_le _) hlt
  unfold attempt conclude
  split
  · exact budget_advance_lt h
  · dsimp only
    split
    · exact hbehind 0
    · exact hbehind 0
    · split <;> exact hbehind _

/-- Reads all statements. -/
def attempts (r : Reader) : List Attempt :=
  if _h : r.isDone then [] else r.attempt.1 :: r.attempt.2.attempts
termination_by r.budget
decreasing_by exact budget_attempt_lt (by simpa using _h)

end Reader

end SchemaPatch
