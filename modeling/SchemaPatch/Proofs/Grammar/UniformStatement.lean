import SchemaPatch.Grammar.Statement
import SchemaPatch.Proofs.Grammar.Uniform

/-!
# Statements are read by their symbols

All rules for statements are uniform: on related tokens they read the same or refuse for the same
cause. So it is with the reading of a whole statement (`Reading.ofTokens_alike`), where the token
that ends it counts only if there is no other.
-/

namespace SchemaPatch

namespace Rule

variable {R : Token → Token → Prop} {ts us : List Token}

namespace Uniform

variable (hR : KeepsSymbols R)
include hR

theorem expression (floor : Precedence) : Uniform R Eq (expression floor) :=
  fun _ _ h => expression_alike hR floor h

theorem objectName : Uniform R Eq objectName :=
  (identifier hR).bind fun _ => (accept hR _).bind fun _ =>
    .ite ((identifier hR).bind fun _ => .pure rfl) (.pure rfl)

theorem createSchema : Uniform R Eq createSchema := (identifier hR).bind fun _ => .pure rfl

/-! ### Tables -/

theorem columnConstraint : Uniform R Eq columnConstraint :=
  (acceptWord hR _).bind fun _ => .ite ((expectWord hR _).bind fun _ => .pure rfl)
    ((acceptWord hR _).bind fun _ => .ite (.pure rfl)
      ((acceptWord hR _).bind fun _ => .ite ((expression hR _).bind fun _ => .pure rfl) (.pure rfl)))

theorem columnDefinition : Uniform R Eq columnDefinition :=
  (identifier hR).bind fun _ => (dataType hR).bind fun _ => (many (columnConstraint hR)).bind fun _ =>
    .pure rfl

theorem columnList : Uniform R Eq columnList :=
  (expect hR _).bind fun _ => (accept hR _).bind fun _ => .ite (.pure rfl)
    ((commaList hR (columnDefinition hR)).bind fun _ => (expect hR _).bind fun _ => .pure rfl)

theorem createTable : Uniform R Eq createTable :=
  (objectName hR).bind fun _ => (columnList hR).bind fun _ => .pure rfl

/-! ### Indexes -/

theorem ifNotExists : Uniform R Eq ifNotExists :=
  (acceptWord hR _).bind fun _ => .ite ((expectWords hR _).bind fun _ => .pure rfl) (.pure rfl)

theorem indexName : Uniform R Eq indexName :=
  (check hR _).bind fun _ => .ite (.pure rfl) ((identifier hR).bind fun _ => .pure rfl)

theorem indexMethod : Uniform R Eq indexMethod :=
  (acceptWord hR _).bind fun _ => .ite ((identifier hR).bind fun _ => .pure rfl) (.pure rfl)

theorem indexKey : Uniform R Eq indexKey := by
  intro ts us h
  cases h with
  | nil => exact .error (.atEnd _)
  | cons ht hrest =>
    rw [Rule.indexKey, Rule.indexKey, hR.kind ht, hR.literal ht, hR.isIdentifier ht]
    split
    · exact operand_alike hR (.cons ht hrest)
    · split
      · cases hrest with
        | nil => exact .ok (.intro rfl .nil)
        | @cons v w rest rest' hv hrest =>
          dsimp only
          rw [hR.kind hv]
          split
          · have harguments := arguments_alike hR hrest
            generalize arguments rest = x at harguments ⊢
            generalize arguments rest' = y at harguments ⊢
            cases harguments with
            | error hf => exact .error hf
            | ok hread =>
              obtain ⟨rfl, hmid⟩ := hread
              exact .ok (.intro rfl hmid)
          · exact .ok (.intro rfl (.cons hv hrest))
      · exact .error (unexpected_alike hR _ (.cons ht hrest))

theorem direction : Uniform R Eq direction :=
  (acceptWord hR _).bind fun _ => .ite (.pure rfl) ((acceptWord hR _).bind fun _ => .pure rfl)

theorem indexTarget : Uniform R Eq indexTarget :=
  (indexKey hR).bind fun _ => (direction hR).bind fun _ => .pure rfl

theorem createIndex : Uniform R Eq createIndex :=
  (acceptWord hR _).bind fun _ => (expectWord hR _).bind fun _ => (acceptWord hR _).bind fun _ =>
    (ifNotExists hR).bind fun _ => (indexName hR).bind fun _ => (expectWord hR _).bind fun _ =>
    (objectName hR).bind fun _ => (indexMethod hR).bind fun _ => (expect hR _).bind fun _ =>
    (commaList hR (indexTarget hR)).bind fun _ => (expect hR _).bind fun _ => .pure rfl

/-! ### Sequences -/

theorem noLimit : Uniform R Eq noLimit :=
  (acceptWord hR _).bind fun _ => .ite (.pure rfl)
    ((acceptWord hR _).bind fun _ => .ite (.pure rfl) (refuse hR _))

theorem sequenceOption : Uniform R Eq sequenceOption :=
  atEnd.bind fun _ => .ite (.pure rfl)
    ((acceptWord hR _).bind fun _ => .ite ((dataType hR).bind fun _ => .pure rfl)
    ((acceptWord hR _).bind fun _ => .ite
      ((acceptWord hR _).bind fun _ => (integer hR).bind fun _ => .pure rfl)
    ((acceptWord hR _).bind fun _ => .ite
      ((acceptWord hR _).bind fun _ => (integer hR).bind fun _ => .pure rfl)
    ((acceptWord hR _).bind fun _ => .ite ((noLimit hR).bind fun _ => .pure rfl)
    ((acceptWord hR _).bind fun _ => .ite ((integer hR).bind fun _ => .pure rfl) (refuse hR _))))))

theorem createSequence : Uniform R Eq createSequence :=
  (objectName hR).bind fun _ => (many (sequenceOption hR)).bind fun _ => .pure rfl

/-! ### Alterations -/

theorem ownedBy (sequence : ObjectName) : Uniform R Eq (ownedBy sequence) :=
  (expectWords hR _).bind fun _ => (identifier hR).bind fun _ => (expect hR _).bind fun _ =>
    (identifier hR).bind fun _ => (accept hR _).bind fun _ =>
      .ite ((identifier hR).bind fun _ => .pure rfl) (.pure rfl)

theorem alteredTable : Uniform R Eq alteredTable :=
  (acceptWord hR _).bind fun _ => (objectName hR).bind fun _ => .pure rfl

theorem constraintName : Uniform R Eq constraintName :=
  (acceptWord hR _).bind fun _ => .ite ((identifier hR).bind fun _ => .pure rfl) (.pure rfl)

end Uniform

/-- The same action is kept, or ignored ones begin with related tokens. -/
inductive Action.Alike (R : Token → Token → Prop) : Action → Action → Prop where
  /-- The same action is kept. -/
  | kept (action : AlterAction) : Alike R (.kept action) (.kept action)
  /-- Ignored actions begin with related tokens. -/
  | ignored {t u : Token} (h : R t u) : Alike R (.ignored t) (.ignored u)

namespace Uniform

variable (hR : KeepsSymbols R)
include hR

theorem constraintBody (name : Option Identifier) :
    Uniform R (Action.Alike R) (constraintBody name) := by
  intro ts us h
  cases h with
  | nil => exact .error (.atEnd _)
  | @cons t u rest rest' ht hrest =>
    rw [Rule.constraintBody, Rule.constraintBody, hR.keyword? ht, hR.kind ht]
    split
    · exact .ok (.intro (.ignored ht) (.cons ht hrest))
    · split
      · have hcolumns := identifierList hR hrest
        generalize Rule.identifierList rest = x at hcolumns ⊢
        generalize Rule.identifierList rest' = y at hcolumns ⊢
        cases hcolumns with
        | error hf => exact .error hf
        | ok hread =>
          obtain ⟨rfl, hmid⟩ := hread
          exact .ok (.intro (.kept _) hmid)
      · split
        · have hkey : Uniform R Eq (do Rule.expectWord .KEY; Rule.identifierList) :=
            (expectWord hR _).bind fun _ => identifierList hR
          have hcolumns := hkey hrest
          generalize (do Rule.expectWord .KEY; Rule.identifierList : Rule (List Identifier)) rest = x
            at hcolumns ⊢
          generalize (do Rule.expectWord .KEY; Rule.identifierList : Rule (List Identifier)) rest' = y
            at hcolumns ⊢
          cases hcolumns with
          | error hf => exact .error hf
          | ok hread =>
            obtain ⟨rfl, hmid⟩ := hread
            exact .ok (.intro (.kept _) hmid)
        · exact .error (unexpected_alike hR _ (.cons ht hrest))

theorem columnDefault : Uniform R (Action.Alike R) columnDefault :=
  (acceptWord hR _).bind fun _ => (identifier hR).bind fun _ => (expectWords hR _).bind fun _ =>
    (expression hR _).bind fun _ => .pure (.kept _)

theorem action : Uniform R (Action.Alike R) action :=
  (acceptWord hR _).bind fun _ => .ite
    ((constraintName hR).bind fun name => constraintBody hR name)
    ((acceptWord hR _).bind fun _ => .ite (columnDefault hR) (refuse hR _))

end Uniform

theorem passIgnored_alike (hR : KeepsSymbols R) (depth : Nat) (h : List.Forall₂ R ts us) :
    Alike R (List.Forall₂ R) (passIgnored depth ts) (passIgnored depth us) := by
  induction h generalizing depth with
  | nil => exact .ok .nil
  | cons ht hrest ih =>
    rw [passIgnored, passIgnored, hR.kind ht]
    split
    · exact .error (.atToken _ ht)
    · exact ih _
    · exact ih _
    · split
      · exact .ok (.cons ht hrest)
      · exact ih _
    · exact ih _

/-- Ignored actions begin with related tokens, and what is kept is the same. -/
inductive Actions.Alike (R : Token → Token → Prop) : Actions → Actions → Prop where
  /-- What is ignored, and what is kept. -/
  | intro {ignored ignored' : List Token}
    {kept kept' : Except Fault (List AlterAction × List Token)}
    (hignored : List.Forall₂ R ignored ignored') (hkept : Rule.Alike R (Leaves R Eq) kept kept') :
    Alike R (ignored, kept) (ignored', kept')

theorem oneAction_alike (hR : KeepsSymbols R) (h : List.Forall₂ R ts us) :
    Actions.Alike R (oneAction ts) (oneAction us) := by
  rw [oneAction, oneAction]
  match action ts, action us, Uniform.action hR h with
  | _, _, .error hf => exact .intro .nil (.error hf)
  | _, _, .ok (.intro (.kept _) hrest) => exact .intro .nil (.ok (.intro rfl hrest))
  | _, _, .ok (@Leaves.intro _ _ _ _ _ rest rest' (.ignored ht) hrest) =>
    dsimp only
    match passIgnored 0 rest, passIgnored 0 rest', passIgnored_alike hR 0 hrest with
    | _, _, .error hf => exact .intro (.cons ht .nil) (.error hf)
    | _, _, .ok hmid => exact .intro (.cons ht .nil) (.ok (.intro rfl hmid))

theorem actions_alike (hR : KeepsSymbols R) (h : List.Forall₂ R ts us) :
    Actions.Alike R (actions ts) (actions us) := by
  induction hn : ts.length using Nat.strongRecOn generalizing ts us with
  | _ n ih =>
    subst hn
    rw [actions, actions, ← h.length_eq]
    have hone := oneAction_alike hR h
    generalize oneAction ts = x at hone ⊢
    generalize oneAction us = y at hone ⊢
    obtain ⟨hignored, hkept⟩ := hone
    cases hkept with
    | error hf => exact .intro hignored (.error hf)
    | ok hread =>
      obtain ⟨rfl, hrest⟩ := hread
      cases hrest with
      | nil => exact .intro hignored (.ok (.intro rfl .nil))
      | @cons t u rest rest' ht hrest =>
        dsimp only
        rw [hR.kind ht, ← hrest.length_eq]
        split
        · next hcomma =>
          have hmore := ih _ hcomma.2 hrest rfl
          generalize actions rest = x at hmore ⊢
          generalize actions rest' = y at hmore ⊢
          obtain ⟨hignored', hkept'⟩ := hmore
          cases hkept' with
          | error hf => exact .intro (List.rel_append hignored hignored') (.error hf)
          | ok hread' =>
            obtain ⟨rfl, hlast⟩ := hread'
            exact .intro (List.rel_append hignored hignored') (.ok (.intro rfl hlast))
        · exact .intro hignored (.ok (.intro rfl (.cons ht hrest)))

end Rule

/-! ### Statements -/

namespace Reading

variable {R : Token → Token → Prop} {ts us : List Token} {lead lead' stop stop' : Token}

/-- The same statement is read and related tokens are left, or both are passed over, or both are
refused for the same cause. What is remarked does not count. -/
def Alike (R : Token → Token → Prop) (r s : Reading) : Prop :=
  Rule.Alike R (Option.Rel (Rule.Leaves R Eq)) r.result s.result

theorem ofRule_alike {r : Rule Statement} (hr : Rule.Uniform R Eq r) (h : List.Forall₂ R ts us) :
    (ofRule r ts).Alike R (ofRule r us) := by
  rw [ofRule, ofRule]
  match r ts, r us, hr h with
  | _, _, .error hf => exact .error hf
  | _, _, .ok hread => exact .ok (.some hread)

theorem passed_alike (r s : Remark) : (passed r).Alike R (passed s) := .ok .none

theorem create_alike (hR : KeepsSymbols R) (h : List.Forall₂ R ts us) :
    (create lead ts).Alike R (create lead' us) := by
  cases h with
  | nil => exact .error (.atEnd _)
  | cons ht hrest =>
    unfold create
    dsimp only
    rw [hR.kind ht, hR.literal ht]
    split
    · exact ofRule_alike (.createSchema hR) hrest
    · exact ofRule_alike (.createTable hR) hrest
    · exact ofRule_alike (.createIndex hR) (.cons ht hrest)
    · exact ofRule_alike (.createIndex hR) (.cons ht hrest)
    · exact ofRule_alike (.createSequence hR) hrest
    · split
      · exact passed_alike _ _
      · exact .error (.atToken _ ht)

theorem alterSequence_alike (hR : KeepsSymbols R) (h : List.Forall₂ R ts us) :
    (alterSequence ts).Alike R (alterSequence us) := by
  unfold alterSequence
  have hname := Rule.Uniform.objectName hR h
  generalize Rule.objectName ts = x at hname ⊢
  generalize Rule.objectName us = y at hname ⊢
  cases hname with
  | error hf => exact .error hf
  | ok hread =>
    obtain ⟨rfl, hrest⟩ := hread
    cases hrest with
    | nil => exact ofRule_alike (.ownedBy hR _) .nil
    | cons ht hrest =>
      dsimp only
      rw [hR.kind ht]
      split
      · exact passed_alike _ _
      · exact ofRule_alike (.ownedBy hR _) (.cons ht hrest)

theorem alterActions_alike (hR : KeepsSymbols R) (only : Bool) (table : ObjectName)
    (h : List.Forall₂ R ts us) :
    (alterActions stop only table ts).Alike R (alterActions stop' only table us) := by
  unfold alterActions
  have hactions := Rule.actions_alike hR h
  generalize Rule.actions ts = x at hactions ⊢
  generalize Rule.actions us = y at hactions ⊢
  obtain ⟨-, hkept⟩ := hactions
  cases hkept with
  | error hf => exact .error hf
  | ok hread =>
    obtain ⟨rfl, hrest⟩ := hread
    next kept _ _ =>
      cases kept with
      | nil => exact .ok .none
      | cons => exact .ok (.some (.intro rfl hrest))

theorem alterTable_alike (hR : KeepsSymbols R) (h : List.Forall₂ R ts us) :
    (alterTable stop ts).Alike R (alterTable stop' us) := by
  unfold alterTable
  have htable := Rule.Uniform.alteredTable hR h
  generalize Rule.alteredTable ts = x at htable ⊢
  generalize Rule.alteredTable us = y at htable ⊢
  cases htable with
  | error hf => exact .error hf
  | ok hread =>
    obtain ⟨rfl, hrest⟩ := hread
    cases hrest with
    | nil => exact alterActions_alike hR _ _ .nil
    | cons ht hrest =>
      dsimp only
      rw [hR.kind ht]
      split
      · exact passed_alike _ _
      · exact alterActions_alike hR _ _ (.cons ht hrest)

theorem alter_alike (hR : KeepsSymbols R) (h : List.Forall₂ R ts us) :
    (alter lead stop ts).Alike R (alter lead' stop' us) := by
  cases h with
  | nil => exact passed_alike _ _
  | cons ht hrest =>
    unfold alter
    dsimp only
    rw [hR.kind ht]
    split
    · exact alterTable_alike hR hrest
    · exact alterSequence_alike hR hrest
    · exact passed_alike _ _

theorem searchPath_uniform (hR : KeepsSymbols R) : Rule.Uniform R Eq searchPath :=
  (Rule.Uniform.accept hR _).bind fun _ => .ite
    ((Rule.Uniform.commaList hR (.expression hR _)).bind fun _ => .pure rfl)
    ((Rule.Uniform.acceptWord hR _).bind fun _ => .ite
      ((Rule.Uniform.commaList hR (.expression hR _)).bind fun _ => .pure rfl) (.refuse hR _))

theorem setParameter_alike (hR : KeepsSymbols R) (h : List.Forall₂ R ts us) :
    (setParameter stop ts).Alike R (setParameter stop' us) := by
  cases h with
  | nil => exact passed_alike _ _
  | @cons t u _ _ ht hrest =>
    have hnames : namesSearchPath t = namesSearchPath u := by
      rw [namesSearchPath, namesSearchPath, hR.isIdentifier ht, hR.literal ht]
    unfold setParameter
    dsimp only
    rw [hnames]
    split
    · exact ofRule_alike (searchPath_uniform hR) hrest
    · exact passed_alike _ _

/-- **A statement is read by its symbols**: on related tokens the same is read, and the token that
ends them counts only if there are none. -/
theorem ofTokens_alike (hR : KeepsSymbols R) (h : List.Forall₂ R ts us)
    (hstop : ts = [] → stop.kind = stop'.kind) :
    (ofTokens ts stop).Alike R (ofTokens us stop') := by
  cases h with
  | nil =>
    unfold ofTokens
    dsimp only
    rw [hstop rfl]
    split
    · exact .ok .none
    · exact .error (.atEnd _)
  | cons ht hrest =>
    unfold ofTokens
    dsimp only
    rw [hR.kind ht]
    split
    · exact create_alike hR hrest
    · exact alter_alike hR hrest
    · exact setParameter_alike hR hrest
    · split
      · exact .error (.atToken _ ht)
      · split
        · exact passed_alike _ _
        · exact .error (.atToken _ ht)

end Reading

end SchemaPatch
