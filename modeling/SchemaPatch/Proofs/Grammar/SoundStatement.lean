import SchemaPatch.Grammar.Statement
import SchemaPatch.Proofs.Grammar.SoundExpression
import SchemaPatch.Proofs.Sql.Readable

/-!
# Reading statements is sound

A statement that was read can be read back, and behind it are the tokens that were not taken
(`Reading.ofTokens_sound`). Rule by rule, this follows from what the rules are put together from.
-/

namespace SchemaPatch

namespace Rule

variable {S : Symbol → Prop}

theorem Sound.expression (floor : Precedence) :
    Sound S (expression floor) fun e => e.Readable S := by
  intro ts e rest h hts
  obtain ⟨he, -, -⟩ := expression_sound h
  exact ⟨⟨he.nested, he.nested.spelled he.written hts⟩, he.nested.passes he.written⟩

theorem Sound.objectName : Sound S objectName fun _ => True :=
  .bind .identifier fun _ _ => .bind (.accept (by simp)) fun _ _ =>
    .ite (.bind .identifier fun _ _ => .pure trivial) (.pure trivial)

theorem Sound.integer : Sound S integer IsReadableInteger := by
  refine .bind (.accept (by simp)) fun negative _ => .bind (.bounded ..) fun n hn => .pure ?_
  have htoInt : (Int64.ofInt (if negative then -(n : Int) else n)).toInt =
      if negative then -(n : Int) else n :=
    Int64.toInt_ofInt_of_le (by split <;> omega) (by split <;> omega)
  intro hmin
  rw [hmin, Int64.toInt_minValue] at htoInt
  split at htoInt <;> omega

/-! ### Statements that create -/

theorem Sound.createSchema : Sound S createSchema (Statement.Readable S) :=
  .bind .identifier fun _ _ => .pure trivial

theorem Sound.columnConstraint :
    Sound S columnConstraint fun o => ∀ k ∈ o, k.Readable S := by
  refine .bind (.acceptWord _) fun _ _ => .ite ?_ (.bind (.acceptWord _) fun _ _ => .ite ?_
    (.bind (.acceptWord _) fun _ _ => .ite ?_ ?_))
  · exact .bind (.expectWord _) fun _ _ => .pure (by simp [ColumnConstraint.Readable])
  · exact .pure (by simp [ColumnConstraint.Readable])
  · exact .bind (.expression _) fun e he => .pure (by simpa [ColumnConstraint.Readable] using he)
  · exact .pure (by simp)

theorem Sound.columnDefinition : Sound S columnDefinition fun c => c.Readable S :=
  .bind .identifier fun _ _ => .bind .dataType fun _ ht =>
    .bind (.many .columnConstraint) fun _ hk => .pure ⟨ht, hk⟩

theorem Sound.columnList : Sound S columnList fun cs => ∀ c ∈ cs, c.Readable S :=
  .bind (.expect (by simp)) fun _ _ => .bind (.accept (by simp)) fun _ _ =>
    .ite (.pure (by simp)) (.bind (.commaList .columnDefinition) fun _ h =>
      .bind (.expect (by simp)) fun _ _ => .pure h.2)

theorem Sound.createTable : Sound S createTable (Statement.Readable S) :=
  .bind .objectName fun _ _ => .bind .columnList fun _ h => .pure h

theorem Sound.ifNotExists : Sound S ifNotExists fun _ => True :=
  .bind (.acceptWord _) fun _ _ => .ite (.bind (.expectWords _) fun _ _ => .pure trivial)
    (.pure trivial)

theorem Sound.indexName : Sound S indexName fun _ => True :=
  .bind (.check _) fun _ _ => .ite (.pure trivial) (.bind .identifier fun _ _ => .pure trivial)

theorem Sound.indexMethod : Sound S indexMethod fun _ => True :=
  .bind (.acceptWord _) fun _ _ => .ite (.bind .identifier fun _ _ => .pure trivial)
    (.pure trivial)

theorem Sound.direction : Sound S direction fun _ => True :=
  .bind (.acceptWord _) fun _ _ => .ite (.pure trivial) (.bind (.acceptWord _) fun _ _ =>
    .pure trivial)

theorem Sound.indexKey : Sound S indexKey fun e => IndexTarget.IsKey e ∧ e.Readable S := by
  intro ts e rest h hts
  cases ts with
  | nil => cases h
  | cons t ts =>
    rw [Rule.indexKey] at h
    split at h
    · next hk =>
      obtain ⟨he, -⟩ := operand_sound h
      refine ⟨⟨?_, he.nested, he.nested.spelled he.written hts⟩, he.nested.passes he.written⟩
      rw [operand] at h
      simp only [hk] at h
      split at h
      · cases h
      · split at h
        · cases h
        · cases h
          exact .group _
    · split at h
      · next hid =>
        have ht : t.kind ≠ .unterminated := fun hu => by simp [Token.isIdentifier, hu] at hid
        split at h
        · next u us =>
          split at h
          · next hu =>
            split at h
            · cases h
            · next args rest' ha =>
              cases h
              obtain ⟨has, v, hlist, hv⟩ := arguments_sound ha
              have hp := hlist.passes fun e he => (has e he).passes
              have hspelled : ∀ e ∈ args, e.Spelled S := by
                intro e he
                obtain ⟨_, _, hpass, hwritten⟩ := hlist.exists_written has e he
                exact (has e he).spelled hwritten (hts.tail.tail.passes hpass)
              exact ⟨⟨.call .., .call (.identifier _) rfl has, .call (.identifier _) hspelled⟩,
                .cons ht (.cons (by simp [hu]) (hp.trans (.one (by simp [hv]))))⟩
          · cases h
            exact ⟨⟨.column _, .identifier _, .identifier _⟩, .one ht⟩
        · cases h
          exact ⟨⟨.column _, .identifier _, .identifier _⟩, .one ht⟩
      · cases h

theorem Sound.indexTarget : Sound S indexTarget fun t => t.Readable S :=
  .bind .indexKey fun _ h => .bind .direction fun _ _ => .pure ⟨h.1, h.2⟩

theorem Sound.createIndex : Sound S createIndex (Statement.Readable S) :=
  .bind (.acceptWord _) fun _ _ => .bind (.expectWord _) fun _ _ =>
  .bind (.acceptWord _) fun _ _ => .bind .ifNotExists fun _ _ => .bind .indexName fun _ _ =>
  .bind (.expectWord _) fun _ _ => .bind .objectName fun _ _ => .bind .indexMethod fun _ _ =>
  .bind (.expect (by simp)) fun _ _ => .bind (.commaList .indexTarget) fun _ h =>
  .bind (.expect (by simp)) fun _ _ => .pure ⟨h.1, h.2⟩

/-! ### Sequences -/

/-- An option that can be read back. -/
def SequenceOption.Readable : SequenceOption → Prop
  | type t => t.IsReadable
  | start n | increment n | cache n => IsReadableInteger n
  | _ => True

/-- A readable option keeps a sequence readable. -/
theorem SequenceOption.Readable.addTo {s : CreateSequence} {o : SequenceOption}
    (ho : o.Readable) (hs : s.Readable) : (SequenceOption.addTo s o).Readable := by
  obtain ⟨ht, hst, hi, hc⟩ := hs
  cases o with
  | type t => exact ⟨by rintro _ ⟨⟩; exact ho, hst, hi, hc⟩
  | start n => exact ⟨ht, by rintro _ ⟨⟩; exact ho, hi, hc⟩
  | increment n => exact ⟨ht, hst, by rintro _ ⟨⟩; exact ho, hc⟩
  | cache n => exact ⟨ht, hst, hi, by rintro _ ⟨⟩; exact ho⟩
  | _ => exact ⟨ht, hst, hi, hc⟩

/-- Readable options make a readable sequence. -/
theorem CreateSequence.Readable.foldl {options : List SequenceOption} {s : CreateSequence}
    (hs : s.Readable) (ho : ∀ o ∈ options, o.Readable) :
    (options.foldl SequenceOption.addTo s).Readable := by
  induction options generalizing s with
  | nil => exact hs
  | cons o options ih =>
    obtain ⟨h, ho⟩ := List.forall_mem_cons.1 ho
    exact ih (h.addTo hs) ho

theorem Sound.noLimit : Sound S noLimit fun o => o.Readable :=
  .bind (.acceptWord _) fun _ _ => .ite (.pure trivial) (.bind (.acceptWord _) fun _ _ =>
    .ite (.pure trivial) (.refuse _))

theorem Sound.sequenceOption : Sound S sequenceOption fun o => ∀ x ∈ o, x.Readable := by
  refine .bind .atEnd fun _ _ => .ite (.pure (by simp)) (.bind (.acceptWord _) fun _ _ =>
    .ite ?type (.bind (.acceptWord _) fun _ _ => .ite ?start (.bind (.acceptWord _) fun _ _ =>
    .ite ?increment (.bind (.acceptWord _) fun _ _ => .ite ?limit (.bind (.acceptWord _) fun _ _ =>
    .ite ?cache (.refuse _))))))
  case type => exact .bind .dataType fun t ht => .pure (by rintro _ ⟨⟩; exact ht)
  case start =>
    exact .bind (.acceptWord _) fun _ _ => .bind .integer fun n hn => .pure (by rintro _ ⟨⟩; exact hn)
  case increment =>
    exact .bind (.acceptWord _) fun _ _ => .bind .integer fun n hn => .pure (by rintro _ ⟨⟩; exact hn)
  case limit => exact .bind .noLimit fun o ho => .pure (by rintro _ ⟨⟩; exact ho)
  case cache => exact .bind .integer fun n hn => .pure (by rintro _ ⟨⟩; exact hn)

theorem Sound.createSequence : Sound S createSequence (Statement.Readable S) :=
  .bind .objectName fun _ _ => .bind (.many .sequenceOption) fun _ ho =>
    .pure (CreateSequence.Readable.foldl ⟨by simp [CreateSequence.plain], by simp [CreateSequence.plain],
      by simp [CreateSequence.plain], by simp [CreateSequence.plain]⟩ ho)

/-! ### Statements that alter -/

theorem Sound.ownedBy (sequence : ObjectName) :
    Sound S (ownedBy sequence) (Statement.Readable S) :=
  .bind (.expectWords _) fun _ _ => .bind .identifier fun _ _ => .bind (.expect (by simp)) fun _ _ =>
  .bind .identifier fun _ _ => .bind (.accept (by simp)) fun _ _ =>
    .ite (.bind .identifier fun _ _ => .pure trivial) (.pure trivial)

theorem Sound.alteredTable : Sound S alteredTable fun _ => True :=
  .bind (.acceptWord _) fun _ _ => .bind .objectName fun _ _ => .pure trivial

/-- An action that can be read back, if it is kept. -/
def Action.Readable (S : Symbol → Prop) : Action → Prop
  | kept a => a.Readable S
  | ignored _ => True

theorem Sound.constraintName : Sound S constraintName fun _ => True :=
  .bind (.acceptWord _) fun _ _ => .ite (.bind .identifier fun _ _ => .pure trivial)
    (.pure trivial)

theorem Sound.constraintBody (name : Option Identifier) :
    Sound S (constraintBody name) (Action.Readable S) := by
  intro ts a rest h hts
  cases ts with
  | nil => cases h
  | cons t ts =>
    rw [Rule.constraintBody] at h
    split at h
    · cases h
      exact ⟨trivial, .refl _⟩
    · split at h
      · next hk =>
        split at h
        · cases h
        · next columns rest' hc =>
          cases h
          obtain ⟨hne, hp⟩ := Sound.identifierList hc hts.tail
          exact ⟨hne, .cons (by simp [hk]) hp⟩
      · split at h
        · next hk =>
          split at h
          · cases h
          · next columns rest' hc =>
            cases h
            obtain ⟨hne, hp⟩ := Sound.bind (.expectWord .KEY) (fun _ _ => .identifierList) hc hts.tail
            exact ⟨hne, .cons (by simp [hk]) hp⟩
        · cases h

theorem Sound.columnDefault : Sound S columnDefault (Action.Readable S) :=
  .bind (.acceptWord _) fun _ _ => .bind .identifier fun _ _ => .bind (.expectWords _) fun _ _ =>
    .bind (.expression _) fun _ he => .pure he

theorem Sound.action : Sound S action (Action.Readable S) :=
  .bind (.acceptWord _) fun _ _ => .ite (.bind .constraintName fun name _ => .constraintBody name)
    (.bind (.acceptWord _) fun _ _ => .ite .columnDefault (.refuse _))

/-- Nothing unterminated is passed over with an ignored action. -/
theorem passIgnored_passes {depth : Nat} {ts rest : List Token}
    (h : passIgnored depth ts = .ok rest) : Passes ts rest := by
  fun_induction passIgnored depth ts with
  | case1 => cases h; exact .refl _
  | case2 => cases h
  | case3 _ t ts hk ih | case4 _ t ts hk ih | case6 _ t ts hk _ ih =>
    exact .cons (by simp [hk]) (ih h)
  | case5 => cases h; exact .refl _
  | case7 _ t ts hu _ _ _ ih => exact .cons (fun hk => hu hk) (ih h)

theorem oneAction_sound {ts rest : List Token} {ignored : List Token} {kept : List AlterAction}
    (h : oneAction ts = (ignored, .ok (kept, rest))) (hts : Tokens S ts) :
    (∀ a ∈ kept, a.Readable S) ∧ Passes ts rest := by
  rw [oneAction] at h
  split at h
  · cases h
  · next a mid ha =>
    cases h
    obtain ⟨hr, hp⟩ := Sound.action ha hts
    exact ⟨fun _ ha => by rw [List.mem_singleton.1 ha]; exact hr, hp⟩
  · next first mid ha =>
    split at h
    · cases h
    · next hm =>
      cases h
      obtain ⟨-, hp⟩ := Sound.action ha hts
      exact ⟨by simp, hp.trans (passIgnored_passes hm)⟩

theorem actions_sound {ts rest : List Token} {ignored : List Token} {kept : List AlterAction}
    (h : actions ts = (ignored, .ok (kept, rest))) (hts : Tokens S ts) :
    (∀ a ∈ kept, a.Readable S) ∧ Passes ts rest := by
  fun_induction actions ts generalizing ignored kept rest with
  | case1 | case2 => cases h
  | case3 ts ig ks t mid hc ig' ks' rest' hrec ho ih =>
    cases h
    obtain ⟨hk, hp⟩ := oneAction_sound ho hts
    have hcomma : Passes (t :: mid) mid := .one (by rw [hc.1]; simp)
    obtain ⟨hk', hp'⟩ := ih hrec ((hts.passes hp).passes hcomma)
    constructor
    · intro a ha
      rcases List.mem_append.1 ha with h | h
      · exact hk a h
      · exact hk' a h
    · exact (hp.trans hcomma).trans hp'
  | case4 ts ig ks t mid hc ho => cases h; exact oneAction_sound ho hts
  | case5 ts ig ks ho => cases h; exact oneAction_sound ho hts

end Rule

/-! ### Statements -/

namespace Reading

variable {S : Symbol → Prop}

/-- What was read of the tokens can be read back, and what was not taken of them is left. -/
def Sound (S : Symbol → Prop) (ts : List Token) (r : Reading) : Prop :=
  ∀ ⦃s rest⦄, r.result = .ok (some (s, rest)) → s.Readable S ∧ Passes ts rest

theorem Sound.cons {t : Token} {ts : List Token} {r : Reading} (h : r.Sound S ts)
    (ht : t.kind ≠ .unterminated) : r.Sound S (t :: ts) :=
  fun _ _ hr => ⟨(h hr).1, .cons ht (h hr).2⟩

theorem Sound.passed (ts : List Token) (r : Remark) : (passed r).Sound S ts :=
  fun _ _ h => by cases h

theorem Sound.refused (ts : List Token) (cause : Fault.Cause) (found : Option Token) :
    (refused cause found).Sound S ts := fun _ _ h => by cases h

theorem Sound.ofRule {r : Rule Statement} {ts : List Token} (hr : Rule.Sound S r (Statement.Readable S))
    (hts : Tokens S ts) : (ofRule r ts).Sound S ts := by
  intro s rest h
  rw [Reading.ofRule] at h
  split at h
  · cases h
  · next x hx =>
    cases h
    exact hr hx hts

theorem create_sound (lead : Token) {ts : List Token} (hts : Tokens S ts) :
    (create lead ts).Sound S ts := by
  unfold create
  split
  · next t rest =>
    split
    · next hk => exact .cons (.ofRule .createSchema hts.tail) (by simp [hk])
    · next hk => exact .cons (.ofRule .createTable hts.tail) (by simp [hk])
    · exact .ofRule .createIndex hts
    · exact .ofRule .createIndex hts
    · next hk => exact .cons (.ofRule .createSequence hts.tail) (by simp [hk])
    · split
      · exact .passed ..
      · exact .refused ..
  · exact .refused ..

theorem Sound.of_passes {ts mid : List Token} {r : Reading} (h : r.Sound S mid) (hp : Passes ts mid) :
    r.Sound S ts := fun _ _ hr => ⟨(h hr).1, hp.trans (h hr).2⟩

theorem alterSequence_sound {ts : List Token} (hts : Tokens S ts) :
    (alterSequence ts).Sound S ts := by
  unfold alterSequence
  split
  · exact fun _ _ h => by cases h
  · next sequence rest hn =>
    obtain ⟨-, hp⟩ := Rule.Sound.objectName hn hts
    have howned := Sound.of_passes (.ofRule (.ownedBy sequence) (hts.passes hp)) hp
    split
    · split
      · exact .passed ..
      · exact howned
    · exact howned

theorem alterActions_sound (stop : Token) (only : Bool) (table : ObjectName) {ts : List Token}
    (hts : Tokens S ts) : (alterActions stop only table ts).Sound S ts := by
  intro s rest h
  unfold alterActions at h
  split at h
  · cases h
  · cases h
  · next kept rest' hne ha =>
    cases h
    obtain ⟨hk, hp⟩ := Rule.actions_sound ha hts
    exact ⟨⟨hne, hk⟩, hp⟩

theorem alterTable_sound (stop : Token) {ts : List Token} (hts : Tokens S ts) :
    (alterTable stop ts).Sound S ts := by
  unfold alterTable
  split
  · exact fun _ _ h => by cases h
  · next only table rest ht =>
    obtain ⟨-, hp⟩ := Rule.Sound.alteredTable ht hts
    have hactions := Sound.of_passes (alterActions_sound stop only table (hts.passes hp)) hp
    split
    · split
      · exact .passed ..
      · exact hactions
    · exact hactions

theorem alter_sound (lead stop : Token) {ts : List Token} (hts : Tokens S ts) :
    (alter lead stop ts).Sound S ts := by
  unfold alter
  split
  · next t rest =>
    split
    · next hk => exact .cons (alterTable_sound stop hts.tail) (by simp [hk])
    · next hk => exact .cons (alterSequence_sound hts.tail) (by simp [hk])
    · exact .passed ..
  · exact .passed ..

theorem searchPath_sound : Rule.Sound S searchPath (Statement.Readable S) :=
  .bind (.accept (by simp)) fun _ _ => .ite
    (.bind (.commaList (.expression _)) fun _ h => .pure ⟨h.1, h.2⟩)
    (.bind (.acceptWord _) fun _ _ => .ite
      (.bind (.commaList (.expression _)) fun _ h => .pure ⟨h.1, h.2⟩) (.refuse _))

theorem setParameter_sound (stop : Token) {ts : List Token} (hts : Tokens S ts) :
    (setParameter stop ts).Sound S ts := by
  unfold setParameter
  split
  · next t rest =>
    split
    · next hn =>
      refine .cons (.ofRule searchPath_sound hts.tail) fun hk => ?_
      simp [namesSearchPath, Token.isIdentifier, hk] at hn
    · exact .passed ..
  · exact .passed ..

/-- **Reading is sound**: a statement that was read can be read back, its literals are tokens of the
text, and none of the tokens taken is unterminated. -/
theorem ofTokens_sound {ts : List Token} (stop : Token) (hts : Tokens S ts) :
    (ofTokens ts stop).Sound S ts := by
  unfold ofTokens
  split
  · next t rest =>
    split
    · next hk => exact .cons (create_sound t hts.tail) (by simp [hk])
    · next hk => exact .cons (alter_sound t stop hts.tail) (by simp [hk])
    · next hk => exact .cons (setParameter_sound stop hts.tail) (by simp [hk])
    · split
      · exact .refused ..
      · split
        · exact .passed ..
        · exact .refused ..
  · split
    · exact fun _ _ h => by cases h
    · exact .refused ..

end Reading

end SchemaPatch
