import SchemaPatch.Document.Attempt
import SchemaPatch.Proofs.Grammar.ReadsActions

/-!
# Statements with ignored actions

A statement that alters a table may hold constraints that take no part in a comparison among the
actions that do. The former leave no trace in what comes of the statement: it is the statement with
the latter alone, or nothing if there are none (`TokenStream.outcome_alteration`).
-/

namespace SchemaPatch

namespace Alteration

/-- Behind the name of the table the actions begin. -/
theorem exists_listed (a : Alteration) : ∃ t mid, Segment.listed a.segments = t :: mid ∧
    (t.kind = .keyword .ADD ∨ t.kind = .keyword .ALTER) := by
  obtain ⟨x, xs, hxs⟩ := List.exists_cons_of_ne_nil a.ne_nil
  obtain ⟨t, mid, hx, ht⟩ := x.written.begins
  exact ⟨t, _, by rw [hxs, Segment.listed, hx, List.cons_append], ht⟩

theorem actions_eq (a : Alteration) : Rule.actions (Segment.listed a.segments) =
    (a.segments.filterMap (·.action.ignored?), .ok (a.kept, [])) := by
  obtain ⟨x, xs, hxs⟩ := List.exists_cons_of_ne_nil a.ne_nil
  rw [kept, hxs]
  exact Rule.actions_listed x xs

/-- A statement does not end in an unterminated token. -/
theorem kind_ne_unterminated (a : Alteration) :
    ∀ t, a.tokens.getLast? = some t → t.kind ≠ .unterminated := by
  intro t ht
  obtain ⟨u, mid, hu, -⟩ := a.exists_listed
  have hlast : (Segment.listed a.segments).getLast? = some t := by
    rw [tokens, hu] at ht
    rw [hu]
    simpa [List.getLast?_append] using ht
  obtain ⟨-, used, hused, hkinds⟩ :=
    Rule.actions_sound (S := fun _ => True) a.actions_eq fun _ _ => trivial
  rw [List.append_nil] at hused
  exact hkinds t (hused ▸ List.mem_of_getLast? hlast)

/-- The name of the table is read, and whether the table alone is altered. -/
theorem alteredTable_eq (a : Alteration) {ts : List Token}
    (h : Forms (if a.only then [.word .ONLY] else []) ts (a.name ++ Segment.listed a.segments)) :
    Rule.alteredTable ts = .ok ((a.only, a.table), Segment.listed a.segments) := by
  obtain ⟨t, mid, hlisted, ht⟩ := a.exists_listed
  have hdot : ¬ Begins .dot (Segment.listed a.segments) := by
    rw [hlisted, begins_cons]
    rcases ht with ht | ht <;> simp [ht]
  have honly : ¬ Begins (.keyword .ONLY) (a.name ++ Segment.listed a.segments) := by
    obtain ⟨u, us, first, hname, hu⟩ := a.named.begins
    rw [hname, List.cons_append, begins_cons]
    exact hu.kind_ne rfl
  have hname := Rule.objectName_of_written (a.named.append (Segment.listed a.segments)) hdot
  unfold Rule.alteredTable
  rw [Rule.acceptWord_bind h honly, Rule.bind_of_eq_ok hname]
  rfl

/-- What is read of a statement that alters a table. -/
theorem result_eq (a : Alteration) (stop : Token) : (Reading.ofTokens a.tokens stop).result =
    .ok (if a.kept = [] then none else some (.alterTable ⟨a.only, a.table, a.kept⟩, [])) := by
  obtain ⟨t, mid, hlisted, ht⟩ := a.exists_listed
  have howner : t.kind ≠ .keyword .OWNER := by
    rcases ht with ht | ht <;> simp [ht]
  obtain ⟨alter, _, hwords, halter, hmore⟩ :=
    forms_cons.1 (a.worded.append (a.name ++ Segment.listed a.segments))
  obtain ⟨table, ts, rfl, htable, honly⟩ := forms_cons.1 hmore
  have hk : alter.kind = .keyword .ALTER := halter.1
  have hk' : table.kind = .keyword .TABLE := htable.1
  have hactions : (Reading.alterActions stop a.only a.table (Segment.listed a.segments)).result =
      .ok (if a.kept = [] then none else some (.alterTable ⟨a.only, a.table, a.kept⟩, [])) := by
    rw [Reading.alterActions, a.actions_eq]
    cases hkept : a.kept <;> rfl
  rw [tokens, hwords, Reading.ofTokens]
  simp only [hk, Reading.alter, hk', Reading.alterTable, a.alteredTable_eq honly]
  rw [← hactions, hlisted]
  simp only [howner, if_false]

/-- The statement `ALTER TABLE ONLY t ADD UNIQUE (a), ADD FOREIGN KEY (b, c)`. -/
def keyAndForeignKey : Alteration where
  only := true
  table := ⟨none, .ofLiteral "t"⟩
  words :=
    [⟨.keyword .ALTER, "ALTER", 1⟩, ⟨.keyword .TABLE, "TABLE", 1⟩, ⟨.keyword .ONLY, "ONLY", 1⟩]
  name := [⟨.identifier, "t", 1⟩]
  segments :=
    [{ comma := ⟨.comma, ",", 1⟩
       isComma := rfl
       action := .kept (.addConstraint ⟨none, .unique, [.ofLiteral "a"]⟩)
       tokens := [⟨.keyword .ADD, "ADD", 1⟩, ⟨.keyword .UNIQUE, "UNIQUE", 1⟩, ⟨.leftParen, "(", 1⟩,
        ⟨.identifier, "a", 1⟩, ⟨.rightParen, ")", 1⟩]
       written := .addConstraint rfl .none
        (forms_cons.2 ⟨_, _, rfl, by simp [Token.Says], forms_nil.2 rfl⟩) rfl (.one ⟨rfl, rfl⟩) rfl },
     { comma := ⟨.comma, ",", 1⟩
       isComma := rfl
       action := .ignored ⟨.keyword .FOREIGN, "FOREIGN", 1⟩
       tokens := [⟨.keyword .ADD, "ADD", 1⟩, ⟨.keyword .FOREIGN, "FOREIGN", 1⟩,
        ⟨.keyword .KEY, "KEY", 1⟩, ⟨.leftParen, "(", 1⟩, ⟨.identifier, "b", 1⟩, ⟨.comma, ",", 1⟩,
        ⟨.identifier, "c", 1⟩, ⟨.rightParen, ")", 1⟩]
       written := .ignored rfl .none rfl
        (.filler rfl (.parens rfl (.filler rfl (.comma rfl (.filler rfl .nil))) rfl .nil)) }]
  worded := by simp [Token.Says]
  named := .plain ⟨rfl, rfl⟩
  ne_nil := by simp

end Alteration

namespace TokenStream

variable {s : TokenStream} {stop : Token}

theorem outcome_eq (a : Alteration) (hs : s.portion.1 = .statement a.tokens stop) :
    s.attempt.1.outcome =
      if a.kept = [] then .skipped else .parsed (.alterTable ⟨a.only, a.table, a.kept⟩) := by
  rw [attempt, hs, Attempt.ofPortion]
  dsimp only
  rw [a.result_eq stop]
  by_cases hkept : a.kept = []
  · simp only [hkept, if_true, Attempt.settle]
    split
    · next t ht => rw [if_neg (a.kind_ne_unterminated t ht)]
    · rfl
  · simp only [hkept, if_false, Attempt.settle]

/-- **Ignored actions leave no trace**: of a statement that alters a table exactly the actions are
read that are kept, in their order. Without any the statement is passed over, and with any it is read
as if the ignored ones and their commas were not there. -/
theorem outcome_alteration (a : Alteration) (hs : s.portion.1 = .statement a.tokens stop) :
    (a.kept = [] → s.attempt.1.outcome = .skipped) ∧
    (a.kept ≠ [] →
      s.attempt.1.outcome = .parsed (.alterTable ⟨a.only, a.table, a.kept⟩)) ∧
    ∀ (h : a.kept ≠ []) (s' : TokenStream) (stop' : Token),
      s'.portion.1 = .statement (a.withoutIgnored h).tokens stop' →
        s'.attempt.1.outcome = s.attempt.1.outcome := by
  have hout := outcome_eq a hs
  refine ⟨fun h => by rw [hout, if_pos h], fun h => by rw [hout, if_neg h], fun h s' stop' hs' => ?_⟩
  rw [outcome_eq _ hs', hout, Alteration.kept_withoutIgnored]
  rfl

/-- A key beside a foreign key is read as if it were alone. -/
theorem outcome_keyAndForeignKey :
    (attempt ⟨Alteration.keyAndForeignKey.tokens ++ [⟨.semicolon, ";", 1⟩], .eof 1⟩).1.outcome =
      .parsed (.alterTable ⟨true, ⟨none, .ofLiteral "t"⟩,
        [.addConstraint ⟨none, .unique, [.ofLiteral "a"]⟩]⟩) ∧
    (attempt ⟨Alteration.keyAndForeignKey.tokens ++ [⟨.semicolon, ";", 1⟩], .eof 1⟩).1.outcome =
      (attempt ⟨(Alteration.keyAndForeignKey.withoutIgnored (by decide)).tokens, .eof 1⟩).1.outcome :=
  have h := outcome_alteration .keyAndForeignKey
    (rfl : (portion ⟨Alteration.keyAndForeignKey.tokens ++ [⟨.semicolon, ";", 1⟩], .eof 1⟩).1 = _)
  ⟨h.2.1 (by decide), (h.2.2 (by decide) _ (.eof 1) rfl).symm⟩

end TokenStream

end SchemaPatch
