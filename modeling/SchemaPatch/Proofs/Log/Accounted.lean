import SchemaPatch.Log.Comparison
import SchemaPatch.Proofs.Document.Located

/-!
# Every statement is accounted for

The log of a document announces each of its statements with one trace event, in order. A statement is
read, or it is refused with an error, or it is passed over and the log says so before it announces the
next one; only a semicolon on its own is passed over without a word. So nothing that is not empty is
missing among the statements, the errors and the log at once (`Document.accounted`).
-/

namespace SchemaPatch

/-! ### What is passed over is remarked -/

namespace Reading

/-- A statement that is passed over leaves a remark. -/
def Remarked (r : Reading) : Prop := r.result = .ok none → r.remarks ≠ []

theorem Remarked.passed {r : Remark} : (passed r).Remarked := fun _ => List.cons_ne_nil r []

theorem Remarked.refused {cause : Fault.Cause} {found : Option Token} :
    (refused cause found).Remarked := fun h => by cases h

theorem Remarked.error {remarks : List Remark} {f : Fault} :
    (Reading.mk remarks (.error f)).Remarked := fun h => by cases h

theorem Remarked.ofRule {r : Rule Statement} {ts : List Token} : (ofRule r ts).Remarked := by
  intro h
  rw [Reading.ofRule] at h
  split at h <;> cases h

variable {lead stop : Token} {ts : List Token}

theorem create_remarked : (create lead ts).Remarked := by
  unfold create
  split
  · split
    case h_6 =>
      split
      · exact .passed
      · exact .refused
    all_goals exact .ofRule
  · exact .refused

theorem alterSequence_remarked : (alterSequence ts).Remarked := by
  unfold alterSequence
  split
  · exact .error
  · split
    · split
      · exact .passed
      · exact .ofRule
    · exact .ofRule

/-- Where all actions are ignored, the remark on the statement comes behind those on the actions. -/
theorem alterActions_remarked {only : Bool} {table : ObjectName} :
    (alterActions stop only table ts).Remarked := by
  unfold alterActions
  split
  · exact .error
  · exact fun _ => List.concat_ne_nil _ _
  · exact fun h => by cases h

theorem alterTable_remarked : (alterTable stop ts).Remarked := by
  unfold alterTable
  split
  · exact .error
  · split
    · split
      · exact .passed
      · exact alterActions_remarked
    · exact alterActions_remarked

theorem alter_remarked : (alter lead stop ts).Remarked := by
  unfold alter
  split
  · split
    · exact alterTable_remarked
    · exact alterSequence_remarked
    · exact .passed
  · exact .passed

theorem setParameter_remarked : (setParameter stop ts).Remarked := by
  unfold setParameter
  split
  · split
    · exact .ofRule
    · exact .passed
  · exact .passed

/-- A statement that is passed over is remarked unless it has no tokens. -/
theorem ofTokens_remarked {t : Token} : (ofTokens (t :: ts) stop).Remarked := by
  unfold ofTokens
  dsimp only
  split
  · exact create_remarked
  · exact alter_remarked
  · exact setParameter_remarked
  · split
    · exact .refused
    · split
      · exact .passed
      · exact .refused

end Reading

/-- A statement is passed over only if its reading says so. -/
theorem Attempt.result_of_settle {body : List Token} {stop : Token}
    {r : Except Fault (Option (Statement × List Token))} (h : settle body stop r = .skipped) :
    r = .ok none := by
  unfold settle at h
  split at h
  · cases h
  · cases h
  · cases h
  · rfl

/-- A portion that is nothing but a semicolon. -/
def Portion.IsEmpty (p : Portion) : Prop := ∃ t, p.tokens = [t] ∧ t.kind = .semicolon

/-- What is passed over is empty or remarked. -/
theorem Attempt.isEmpty_or_remarked {p : Portion} (h : (ofPortion p).outcome = .skipped) :
    p.IsEmpty ∨ (ofPortion p).remarks ≠ [] := by
  cases p with
  | metaCommand t => exact .inr (List.cons_ne_nil _ _)
  | statement body stop =>
    have hresult := result_of_settle h
    cases body with
    | nil =>
      refine .inl ⟨stop, rfl, ?_⟩
      rw [Reading.ofTokens] at hresult
      split at hresult
      · assumption
      · cases hresult
    | cons t ts => exact .inr (Reading.ofTokens_remarked hresult)

/-! ### What the log tells -/

/-- The first token of a portion. -/
def Portion.lead : Portion → Token
  | metaCommand t => t
  | statement body stop => body.headD stop

/-- The event that announces a portion: it names the first token and the line of it. -/
def Portion.announcement (name : String) (p : Portion) : Event :=
  ⟨.trace, "Parsing statement",
    [("input", .plain name), ("line", .number p.lead.line), ("token", .plain p.lead.literal)]⟩

/-- The portions of a document are accounted for by statements, errors and a log: each one is announced
and then takes its place among the statements or the errors, or else the log has something to say of it
before it goes on to the next one. -/
inductive Accounted (name : String) :
    List Portion → List Statement → List SyntaxError → List Event → Prop where
  /-- Nothing is to be accounted for. -/
  | nil : Accounted name [] [] [] []
  /-- A portion is read as the next statement. -/
  | parsed {p : Portion} {s : Statement} {said log : List Event} {ps : List Portion}
      {ss : List Statement} {es : List SyntaxError} : (Attempt.ofPortion p).outcome = .parsed s →
      (∀ e ∈ said, e.level = .debug) → Accounted name ps ss es log →
      Accounted name (p :: ps) (s :: ss) es (p.announcement name :: (said ++ log))
  /-- A portion is refused with the next error. -/
  | failed {p : Portion} {cause : Fault.Cause} {found : Token} {said log : List Event}
      {ps : List Portion} {ss : List Statement} {es : List SyntaxError} :
      (Attempt.ofPortion p).outcome = .failed cause found → (∀ e ∈ said, e.level = .debug) →
      Accounted name ps ss es log →
      Accounted name (p :: ps) ss (cause.locate name found :: es)
        (p.announcement name :: (said ++ log))
  /-- A portion is passed over, and at least one event says so. -/
  | skipped {p : Portion} {said log : List Event} {ps : List Portion} {ss : List Statement}
      {es : List SyntaxError} : (Attempt.ofPortion p).outcome = .skipped → said ≠ [] →
      (∀ e ∈ said, e.level = .debug) → Accounted name ps ss es log →
      Accounted name (p :: ps) ss es (p.announcement name :: (said ++ log))
  /-- A portion is empty. -/
  | empty {p : Portion} {log : List Event} {ps : List Portion} {ss : List Statement}
      {es : List SyntaxError} : (Attempt.ofPortion p).outcome = .skipped → p.IsEmpty →
      Accounted name ps ss es log → Accounted name (p :: ps) ss es (p.announcement name :: log)

/-- Whether a portion is passed over. -/
def Portion.isSkipped (p : Portion) : Bool := (Attempt.ofPortion p).outcome = .skipped

namespace Accounted

variable {name : String} {ps : List Portion} {ss : List Statement} {es : List SyntaxError}
  {log : List Event}

/-- The announcements are the only trace events. -/
theorem filter_trace (h : Accounted name ps ss es log) :
    log.filter (fun e => e.level = .trace) = ps.map (Portion.announcement name) := by
  have hsaid : ∀ {said : List Event}, (∀ e ∈ said, e.level = .debug) →
      said.filter (fun e => e.level = .trace) = [] := by
    intro said hdebug
    exact List.filter_eq_nil_iff.2 fun e he => by simp [hdebug e he]
  have hannounced : ∀ p : Portion, (p.announcement name).level = .trace := fun _ => rfl
  induction h with
  | nil => rfl
  | parsed _ hdebug _ ih | failed _ hdebug _ ih | skipped _ _ hdebug _ ih =>
    rw [List.filter_cons_of_pos (by simp [hannounced]), List.filter_append, hsaid hdebug, ih]
    rfl
  | empty _ _ _ ih =>
    rw [List.filter_cons_of_pos (by simp [hannounced]), ih]
    rfl

/-- A portion is read, refused or passed over, and no two of these. -/
theorem length_eq (h : Accounted name ps ss es log) :
    ps.length = ss.length + es.length + ps.countP Portion.isSkipped := by
  induction h with
  | nil => rfl
  | parsed hp _ _ ih | failed hp _ _ ih =>
    rw [List.countP_cons, Portion.isSkipped, hp]
    simp only [List.length_cons, reduceCtorEq, decide_false, Bool.false_eq_true, if_false]
    omega
  | skipped hp _ _ _ ih | empty hp _ _ ih =>
    rw [List.countP_cons, Portion.isSkipped, hp]
    simp only [List.length_cons, decide_true, if_true]
    omega

end Accounted

theorem Remark.level_event (name : String) (r : Remark) : (r.event name).level = .debug := by
  cases r <;> rfl

/-- The events of a portion are its announcement and what is remarked. -/
theorem Attempt.events_ofPortion (name : String) (p : Portion) : (ofPortion p).events name =
    p.announcement name :: (ofPortion p).remarks.map (Remark.event name) := by
  cases p <;> rfl

/-- One portion more is accounted for. -/
theorem Accounted.cons {name : String} (p : Portion) {ps : List Portion} {ss : List Statement}
    {es : List SyntaxError} {log : List Event} (h : Accounted name ps ss es log) :
    Accounted name (p :: ps) ((Attempt.ofPortion p).statement?.toList ++ ss)
      ((p.error? name).toList ++ es) ((Attempt.ofPortion p).events name ++ log) := by
  have hdebug : ∀ e ∈ (Attempt.ofPortion p).remarks.map (Remark.event name), e.level = .debug :=
    List.forall_mem_map.2 fun r _ => r.level_event name
  rw [Attempt.events_ofPortion, Portion.error?, Attempt.error?, Attempt.statement?]
  cases hp : (Attempt.ofPortion p).outcome with
  | parsed s => exact .parsed hp hdebug h
  | failed cause found => exact .failed hp hdebug h
  | skipped =>
    by_cases hremarks : (Attempt.ofPortion p).remarks = []
    · have hempty := (Attempt.isEmpty_or_remarked hp).resolve_right fun hne => hne hremarks
      rw [hremarks]
      exact .empty hp hempty h
    · exact .skipped hp (mt List.map_eq_nil_iff.1 hremarks) hdebug h

/-- Portions are accounted for by what is read of them. -/
theorem Accounted.of_portions (name : String) (ps : List Portion) :
    Accounted name ps (ps.filterMap fun p => (Attempt.ofPortion p).statement?)
      (ps.filterMap (Portion.error? name)) (ps.flatMap fun p => (Attempt.ofPortion p).events name) := by
  induction ps with
  | nil => exact .nil
  | cons p ps ih =>
    have hcons := Accounted.cons p ih
    rw [List.flatMap_cons]
    cases hs : (Attempt.ofPortion p).statement? <;> cases he : p.error? name <;>
      simpa [hs, he] using hcons

/-- **Every statement of a document is accounted for.** The portions of a text are its tokens cut up
behind each semicolon. Each one is announced by the one trace event of its own, in order, and is read,
refused or passed over; what is passed over without a word before the next announcement is nothing but
a semicolon. -/
theorem Document.accounted (name text : String) :
    let d := ofText name text
    let s := (TokenStream.ofText text).primed
    (s.portions.flatMap Portion.tokens = s.tokens ∨
        s.portions.flatMap Portion.tokens = s.tokens ++ [s.stop]) ∧
      (∀ p ∈ s.portions, p.Cut s.stop ∧ ∀ t ∈ p.tokens.dropLast, t.kind ≠ .semicolon) ∧
      (∃ log, d.events = log ++ [d.summaryEvent] ∧
        Accounted name s.portions d.statements d.errors log) ∧
      d.events.filter (fun e => e.level = .trace) = s.portions.map (Portion.announcement name) ∧
      s.portions.length =
        d.statements.length + d.errors.length + s.portions.countP Portion.isSkipped := by
  intro d s
  have hall : Accounted name s.portions d.statements d.errors
      (d.attempts.flatMap (Attempt.events name)) := by
    have hattempts : d.attempts = s.portions.map Attempt.ofPortion :=
      congrArg attempts (ofText_eq name text)
    have hstatements : d.statements =
        s.portions.filterMap fun p => (Attempt.ofPortion p).statement? := by
      rw [statements, hattempts, List.filterMap_map]
      rfl
    rw [hstatements, show d.errors = _ from errors_eq name text, hattempts, List.flatMap_map]
    exact .of_portions name s.portions
  refine ⟨TokenStream.tokens_portions s.tokens s.stop, s.ends_of_mem_portions, ⟨_, rfl, hall⟩, ?_,
    hall.length_eq⟩
  have htrace := hall.filter_trace
  rw [events, List.filter_append, show d.name = name from rfl, htrace]
  exact List.append_nil _

/-- A semicolon on its own, a command to the terminal client and a parameter: all are announced, and only
of the semicolon there is nothing more to say. -/
example : (Document.ofText "dump.sql" ";\\connect db\nSET a = 1").events.map Event.level =
    [.trace, .trace, .debug, .trace, .debug, .debug] := by
  decide +kernel

end SchemaPatch
