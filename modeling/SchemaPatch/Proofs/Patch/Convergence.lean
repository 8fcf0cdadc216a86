import SchemaPatch.Document.Basic
import SchemaPatch.Proofs.Catalog.Coherent
import SchemaPatch.Proofs.Patch.Effect
import SchemaPatch.Proofs.Patch.Leads

/-!
# Patches converge

Running the statements of a patch from what is seen of the one catalog ends in what is seen of the
other, and no statement is idle (`Patch.runAll_steps`). The proof goes down from catalogs to tables
and from tables to what they have under names: columns, indexes, constraints and explicit defaults.
-/

namespace SchemaPatch

/-- Changes to one table lead from what is seen of it to something else, each of them changing what
is seen unless it is about a sequence. -/
abbrev Change.Lead (changes : List Change) (before after : Option TableView) : Prop :=
  Leads Change.effect (fun c => c.isSequence) changes before after

/-! ### Columns -/

section Columns

variable (t : TableView)

/-- Editing a column that is there, to something else. -/
theorem Change.Lead.edit {c : Change} {k : Identifier} {h : Option ColumnView → Option ColumnView}
    (hc : ∀ t, c.effect t = t.map (.editColumn k h)) {f : String → Option ColumnView}
    {x y : Option ColumnView} (hx : f k.value = x) (hy : h x = y) (hne : y ≠ x) :
    Change.Lead [c] (some { t with columns := f })
      (some { t with columns := Function.update f k.value y }) := by
  subst hx hy
  refine .one (hc _) fun heq => hne ?_
  have hcol := congrFun (congrArg TableView.columns (Option.some.inj heq)) k.value
  simpa using hcol

/-- Editing a column that is there only if that makes a difference. -/
theorem Change.Lead.edit_unless {p : Prop} [Decidable p] {c : Change} {k : Identifier}
    {h : Option ColumnView → Option ColumnView} (hc : ∀ t, c.effect t = t.map (.editColumn k h))
    {f : String → Option ColumnView} {x y : Option ColumnView} (hx : f k.value = x) (hy : h x = y)
    (hp : p ↔ y = x) :
    Change.Lead (if p then [] else [c]) (some { t with columns := f })
      (some { t with columns := Function.update f k.value y }) := by
  split
  · next hyes =>
    rw [hp.1 hyes, ← hx, Function.update_eq_self]
    exact .nil _
  · next hno => exact .edit t hc hx hy fun heq => hno (hp.2 heq)

/-- A column becomes another one of its name. -/
theorem Change.Lead.column {source desired : Column} {f : String → Option ColumnView}
    (hf : f desired.name.value = some source.view) :
    Change.Lead (source.changes desired) (some { t with columns := f })
      (some { t with columns := Function.update f desired.name.value (some desired.view) }) := by
  let k := desired.name
  let typed : ColumnView := ⟨desired.type, source.notNull, source.default⟩
  let ruled : ColumnView := ⟨desired.type, desired.notNull, source.default⟩
  have htype := edit_unless t (p := source.type = desired.type)
    (c := .setType k desired.type (Column.needsCast source.type desired.type)) (fun _ => rfl) hf
    (y := some typed) rfl (by simp [typed, Column.view, eq_comm])
  have hnull := edit_unless t (p := source.notNull = desired.notNull)
    (c := .setNotNull k desired.notNull) (fun _ => rfl) (Function.update_self k.value (some typed) f)
    (y := some ruled) rfl (by simp [typed, ruled, eq_comm])
  have hdefault := edit_unless t (p := source.default = desired.default)
    (c := .setInlineDefault k desired.default) (fun _ => rfl)
    (Function.update_self k.value (some ruled) f)
    (y := some desired.view) rfl (by simp [ruled, Column.view, eq_comm])
  rw [Function.update_idem] at hnull hdefault
  exact (htype.append hnull).append hdefault

/-- The changes to the columns turn those of the one table into those of the other. -/
theorem Change.Lead.columnChanges {source desired : Table} (hs : source.Coherent)
    (hd : desired.Coherent) :
    Change.Lead (source.columnChanges desired)
      (some { t with columns := Column.views source.columns })
      (some { t with columns := Column.views desired.columns }) := by
  have hname : ∀ {m : Keyed Column} {e : String × Column}, m.Named (·.name.value) → e ∈ m.entries →
      e.1 = e.2.name.value := fun hm he => (hm.name_eq _ he).symm
  rw [Table.columnChanges, List.map_eq_flatMap, List.map_eq_flatMap]
  refine Leads.passes (fun f => some { t with columns := f }) (Option.map Column.view)
    (fun c => [.dropColumn c.name]) (fun p => p.1.changes p.2) (fun c => [.addColumn c])
    hs.columns.nodup hd.columns.nodup ?_ ?_ ?_
  · intro e he f hf
    rw [hname hs.columns he] at hf ⊢
    exact edit t (fun _ => rfl) hf rfl (by simp)
  · intro e he b hb f hf
    rw [show e.1 = b.name.value from hname hd.columns hb] at hf ⊢
    exact column t hf
  · intro e he f hf
    rw [hname hd.columns he] at hf ⊢
    exact edit t (fun _ => rfl) hf rfl (by simp)

end Columns

/-! ### What is attached -/

/-- The names that are gone are taken out and the new ones are put in. -/
theorem Change.Lead.names {β : Type} {name : β → String} {source desired : Keyed β}
    (hs : source.Named name) (hd : desired.Named name) (wrap : (String → Bool) → Option TableView)
    (hwrap : Function.Injective wrap) {drop add : β → Change}
    (hdrop : ∀ e ∈ source.entries, ∀ f,
      (drop e.2).effect (wrap f) = wrap (Function.update f (name e.2) false))
    (hadd : ∀ e ∈ desired.entries, ∀ f,
      (add e.2).effect (wrap f) = wrap (Function.update f (name e.2) true)) :
    Change.Lead ((source.missingFrom desired).map drop ++ (desired.missingFrom source).map add)
      (wrap source.contains) (wrap desired.contains) := by
  have hone : ∀ {c : Change} {f : String → Bool} {k : String} {b : Bool},
      c.effect (wrap f) = wrap (Function.update f k b) → f k ≠ b →
      Change.Lead [c] (wrap f) (wrap (Function.update f k b)) := by
    intro c f k b hc hne
    refine .one hc fun heq => hne ?_
    have := congrFun (hwrap heq) k
    rw [Function.update_self] at this
    exact this.symm
  have hpasses : Change.Lead ((source.missingFrom desired).flatMap (fun x => [drop x]) ++
      (source.pairedWith desired).flatMap (fun _ => []) ++
      (desired.missingFrom source).flatMap (fun x => [add x]))
      (wrap source.contains) (wrap desired.contains) := by
    refine Leads.passes wrap Option.isSome _ _ _ hs.nodup hd.nodup ?_ ?_ ?_
    · intro e he f hf
      rw [← hs.name_eq e he] at hf ⊢
      exact hone (hdrop e he f) (by simp [hf])
    · intro e _ b _ f hf
      have hsame : Function.update f e.1 true = f := Function.update_eq_self_iff.2 hf.symm
      show Leads _ _ [] (wrap f) (wrap (Function.update f e.1 true))
      rw [hsame]
      exact .nil _
    · intro e he f hf
      rw [← hd.name_eq e he] at hf ⊢
      exact hone (hadd e he f) (by simp [hf])
  have hnil : (source.pairedWith desired).flatMap (fun _ => ([] : List Change)) = [] :=
    List.flatMap_eq_nil_iff.2 fun _ _ => rfl
  rwa [hnil, List.append_nil, ← List.map_eq_flatMap, ← List.map_eq_flatMap] at hpasses

section Attached

variable (t : TableView)

theorem Change.Lead.indexes {source desired : Keyed Index} (hs : source.Named (·.name.value))
    (hd : desired.Named (·.name.value))
    (hname : ∀ e ∈ desired.entries, e.2.statement.name = some e.2.name) :
    Change.Lead ((source.missingFrom desired).map (fun i => .dropIndex i.name) ++
        (desired.missingFrom source).map .createIndex)
      (some { t with indexes := source.contains }) (some { t with indexes := desired.contains }) := by
  refine names hs hd (fun f => some { t with indexes := f }) ?_ (fun _ _ _ => rfl) ?_
  · intro f g h
    exact congrArg TableView.indexes (Option.some.inj h)
  · intro e he f
    simp only [Change.effect, hname e he]
    rfl

theorem Change.Lead.constraints {source desired : Keyed Constraint}
    (hs : source.Named (·.name.value)) (hd : desired.Named (·.name.value)) :
    Change.Lead ((source.missingFrom desired).map (fun c => .dropConstraint c.name) ++
        (desired.missingFrom source).map .addConstraint)
      (some { t with constraints := source.contains })
      (some { t with constraints := desired.contains }) := by
  refine names hs hd (fun f => some { t with constraints := f }) ?_ (fun _ _ _ => rfl)
    fun _ _ _ => rfl
  intro f g h
  exact congrArg TableView.constraints (Option.some.inj h)

theorem Change.Lead.defaults {source desired : Keyed ColumnDefault}
    (hs : source.Named (·.column.value)) (hd : desired.Named (·.column.value)) :
    Change.Lead ((source.missingFrom desired).map (fun d => .dropDefault d.column) ++
        (desired.missingFrom source).map .setDefault)
      (some { t with defaults := source.contains }) (some { t with defaults := desired.contains }) := by
  refine names hs hd (fun f => some { t with defaults := f }) ?_ (fun _ _ _ => rfl)
    fun _ _ _ => rfl
  intro f g h
  exact congrArg TableView.defaults (Option.some.inj h)

end Attached

/-! ### Tables -/

/-- The changes to a table turn what is seen of it into what is seen of the other one. -/
theorem Change.Lead.changes {source desired : Table} (hs : source.Coherent)
    (hd : desired.Coherent) :
    Change.Lead (source.changes desired) (some source.view) (some desired.view) := by
  let t₁ : TableView := { source.view with columns := Column.views desired.columns }
  let t₂ : TableView := { t₁ with indexes := desired.indexes.contains }
  let t₃ : TableView := { t₂ with constraints := desired.constraints.contains }
  have hcolumns : Change.Lead (source.columnChanges desired) (some source.view) (some t₁) :=
    columnChanges source.view hs hd
  have hindexes : Change.Lead (source.indexChanges desired) (some t₁) (some t₂) :=
    indexes t₁ hs.indexes hd.indexes hd.indexName
  have hconstraints : Change.Lead (source.constraintChanges desired) (some t₂) (some t₃) :=
    constraints t₂ hs.constraints hd.constraints
  have hdefaults : Change.Lead (source.defaultChanges desired) (some t₃) (some desired.view) :=
    defaults t₃ hs.defaults hd.defaults
  exact ((hcolumns.append hindexes).append hconstraints).append hdefaults

/-- What is done for a new table makes it be seen. -/
theorem Change.Lead.creation {t : Table} (h : t.Coherent) :
    Change.Lead t.creation none (some t.view) := by
  let t₀ := TableView.ofDefinitions t.definitions
  let t₁ : TableView := { t₀ with indexes := t.indexes.contains }
  let t₂ : TableView := { t₁ with constraints := t.constraints.contains }
  have hcreated : Change.Lead [.createTable t.definitions] none (some t₀) :=
    .one rfl (by simp)
  have hsequences : Change.Lead (t.columns.values.flatMap Table.sequenceChanges) (some t₀) (some t₀) := by
    apply Leads.of_silent
    intro c hc
    have hseq : c.isSequence := by
      obtain ⟨column, -, hc⟩ := List.mem_flatMap.1 hc
      unfold Table.sequenceChanges at hc
      split at hc
      · rcases List.mem_cons.1 hc with rfl | hc
        · rfl
        · rw [List.mem_singleton.1 hc]
          rfl
      · cases hc
    exact ⟨hseq, Change.effect_of_isSequence hseq _⟩
  have hindexes : Change.Lead (t.indexes.values.map .createIndex) (some t₀) (some t₁) := by
    have hempty : (.empty : Keyed Index).Named (·.name.value) := .empty
    have := indexes t₀ hempty h.indexes h.indexName
    rwa [Keyed.empty_missingFrom, Keyed.missingFrom_empty] at this
  have hconstraints : Change.Lead (t.constraints.values.map .addConstraint) (some t₁) (some t₂) := by
    have hempty : (.empty : Keyed Constraint).Named (·.name.value) := .empty
    have := constraints t₁ hempty h.constraints
    rwa [Keyed.empty_missingFrom, Keyed.missingFrom_empty] at this
  have hdefaults : Change.Lead (t.defaults.values.map .setDefault) (some t₂) (some t.view) := by
    have hempty : (.empty : Keyed ColumnDefault).Named (·.column.value) := .empty
    have := defaults t₂ hempty h.defaults
    rw [Keyed.empty_missingFrom, Keyed.missingFrom_empty] at this
    have hview : t.view = { t₂ with defaults := t.defaults.contains } := by
      rw [Table.view, h.defined]
      rfl
    rwa [hview]
  exact (((hcreated.append hsequences).append hindexes).append hconstraints).append hdefaults

/-! ### Catalogs -/

/-- Runs of a patch without idle statements. -/
abbrev Step.Lead (steps : List Step) (before after : View) : Prop :=
  Leads Step.run (fun s => s.change.isSequence) steps before after

/-- Changes to one table change a view at the text by which the table is known. -/
theorem Step.Lead.ofChanges {changes : List Change} {before after : Option TableView}
    (h : Change.Lead changes before after) (table : QualifiedName) {v : View}
    (hv : v table.sql = before) :
    Step.Lead (changes.map (Step.mk table)) v (Function.update v table.sql after) := by
  induction h generalizing v with
  | nil s =>
    rw [← hv, Function.update_eq_self]
    exact .nil _
  | @cons c cs s t hc _ ih =>
    have hrun : (Step.mk table c).run v = Function.update v table.sql (c.effect s) := by
      rw [← hv]
      rfl
    have hrest := ih (v := (Step.mk table c).run v) (by rw [hrun, Function.update_self])
    rw [hrun, Function.update_idem, ← hrun] at hrest
    refine .cons (hc.imp_right fun hne heq => hne ?_) hrest
    have hat := congrFun heq table.sql
    rwa [hrun, Function.update_self, hv] at hat

namespace Block

/-- The statements of a block, if there is one. -/
def stepsOf (b : Option Block) : List Step := (b.map steps).getD []

/-- The block of a table that was there makes it be seen as in the other catalog. -/
theorem lead_ofPresent {source : Table} {desired : Option Table} {id : String} (hs : source.Coherent)
    (hid : source.id = id) (hd : ∀ t, desired = some t → t.Coherent ∧ t.id = id) {v : View}
    (hv : v id = some source.view) :
    Step.Lead (stepsOf (ofPresent? source desired)) v (Function.update v id (desired.map Table.view)) := by
  cases desired with
  | none =>
    subst hid
    have hdrop : Change.Lead [.dropTable] (some source.view) none := .one rfl (by simp)
    exact .ofChanges hdrop source.name hv
  | some t =>
    obtain ⟨ht, rfl⟩ := hd t rfl
    have hlead := Change.Lead.changes hs ht
    have hsteps : stepsOf (ofPresent? source (some t)) = (source.changes t).map (Step.mk t.name) := by
      rw [ofPresent?]
      split
      · next hnil => rw [hnil]; rfl
      · rfl
    rw [hsteps]
    exact .ofChanges hlead t.name hv

/-- The block of a table that was not there makes it be seen. -/
theorem lead_ofNew {t : Table} (h : t.Coherent) {v : View} (hv : v t.id = none) :
    Step.Lead (ofNew t).steps v (Function.update v t.id (some t.view)) :=
  .ofChanges (.creation h) t.name hv

end Block

namespace Patch

variable {source desired : Catalog}

theorem steps_between : (between source desired).steps =
    source.entries.entries.flatMap (fun e => Block.stepsOf (Block.ofPresent? e.2 (desired.table? e.1))) ++
      (desired.entries.missingFrom source.entries).flatMap fun t => (Block.ofNew t).steps := by
  rw [steps, between, List.flatMap_append, List.flatMap_map]
  congr 1
  induction source.entries.entries with
  | nil => rfl
  | cons e l ih =>
    rw [List.flatMap_cons, ← ih]
    cases hb : Block.ofPresent? e.2 (desired.table? e.1) <;> simp [hb, Block.stepsOf]

/-- The statements of a patch between coherent catalogs lead from the one to the other. -/
theorem lead_between (hs : source.Coherent) (hd : desired.Coherent) :
    Step.Lead (between source desired).steps source.view desired.view := by
  let v : View := fun id => if id ∈ source.entries.keys then desired.view id else source.view id
  let w : View := fun id =>
    if id ∈ desired.entries.keys ∧ id ∉ source.entries.keys then desired.view id else v id
  have hsource : ∀ e ∈ source.entries.entries, source.view e.1 = some e.2.view := fun e he =>
    congrArg (Option.map Table.view) (Keyed.get?_of_mem hs.sorted.nodup he)
  have hdesired : ∀ e ∈ desired.entries.entries, desired.view e.1 = some e.2.view := fun e he =>
    congrArg (Option.map Table.view) (Keyed.get?_of_mem hd.sorted.nodup he)
  have hnone : ∀ {c : Catalog} {id}, id ∉ c.entries.keys → c.view id = none := fun h =>
    congrArg (Option.map Table.view) (Keyed.get?_eq_none_iff.2 h)
  have hpresent : Step.Lead (source.entries.entries.flatMap fun e =>
      Block.stepsOf (Block.ofPresent? e.2 (desired.table? e.1))) source.view v := by
    apply Leads.keyed id hs.sorted.nodup
    intro e he f hf
    refine Block.lead_ofPresent (hs.table e he) (hs.id_eq e he) (fun t ht => ?_)
      (hf.trans (hsource e he))
    have hmem := Keyed.mem_of_get? ht
    exact ⟨hd.table (e.1, t) hmem, hd.id_eq (e.1, t) hmem⟩
  have hnew : Step.Lead ((desired.entries.missingFrom source.entries).flatMap fun t =>
      (Block.ofNew t).steps) v w := by
    apply Leads.missing id hd.sorted.nodup
    intro e he hout f hf
    have hid : e.2.id = e.1 := hd.id_eq e he
    have hv : v e.1 = none := (if_neg hout).trans (hnone hout)
    have hfree : f e.2.id = none := by rw [hid]; exact hf.trans hv
    rw [hdesired e he, ← hid]
    exact Block.lead_ofNew (hd.table e he) hfree
  have hend : w = desired.view := by
    funext id
    by_cases hin : id ∈ source.entries.keys
    · exact (if_neg fun h => h.2 hin).trans (if_pos hin)
    · by_cases hin' : id ∈ desired.entries.keys
      · exact if_pos ⟨hin', hin⟩
      · exact (if_neg fun h => hin' h.1).trans ((if_neg hin).trans ((hnone hin).trans (hnone hin').symm))
  rw [steps_between, ← hend]
  exact hpresent.append hnew

/-- **Patches converge**: run on what is seen of the one catalog, the statements of a patch end in
what is seen of the other, and each of them that is not about a sequence changes what is seen when it
is run. -/
theorem runAll_steps (source desired : List Statement) :
    Step.runAll (between (Catalog.build source) (Catalog.build desired)).steps
        (Catalog.build source).view = (Catalog.build desired).view ∧
      ∀ before s after,
        (between (Catalog.build source) (Catalog.build desired)).steps = before ++ s :: after →
        s.change.isSequence = false →
        s.run (Step.runAll before (Catalog.build source).view) ≠
          Step.runAll before (Catalog.build source).view := by
  have hlead := lead_between (Catalog.build_coherent source) (Catalog.build_coherent desired)
  exact ⟨hlead.foldl_eq, fun before s after hsteps hs =>
    hlead.ne_of_eq_append hsteps (by simp [hs])⟩

/-- A table with columns, an index, a constraint and an explicit default. -/
def tableBefore : List Statement := Document.statements <| .ofText "before.sql" <|
  "CREATE TABLE t (a integer, b text NOT NULL, c bigint); CREATE INDEX i ON t (a); " ++
    "ALTER TABLE t ADD CONSTRAINT k UNIQUE (a), ALTER COLUMN b SET DEFAULT 'x';"

/-- The same table, of which all of these have changed. -/
def tableAfter : List Statement := Document.statements <| .ofText "after.sql" <|
  "CREATE TABLE t (b uuid, c bigint DEFAULT 2, d date); CREATE INDEX j ON t (c); " ++
    "ALTER TABLE t ADD CONSTRAINT l PRIMARY KEY (c), ALTER COLUMN d SET DEFAULT null;"

/-- The changes, in the order of the patch. -/
def tableSteps : List Step :=
  [.dropColumn ⟨"a"⟩, .setType ⟨"b"⟩ "uuid" true, .setNotNull ⟨"b"⟩ false,
    .setInlineDefault ⟨"c"⟩ (some "2"), .addColumn ⟨⟨"d"⟩, "date", false, none, none⟩,
    .dropIndex ⟨"i"⟩,
    .createIndex ⟨⟨"j"⟩, ⟨false, false, false, some ⟨"j"⟩, ⟨some ⟨"public"⟩, ⟨"t"⟩⟩, none,
      [⟨.identifier ⟨"c"⟩, false⟩]⟩⟩,
    .dropConstraint ⟨"k"⟩, .addConstraint ⟨⟨"l"⟩, .primaryKey, [⟨"c"⟩]⟩, .dropDefault ⟨"b"⟩,
    .setDefault ⟨⟨"d"⟩, "NULL"⟩].map (Step.mk ⟨⟨"public"⟩, ⟨"t"⟩⟩)

/-- The patch of a table of which everything changes: none of its statements can be left out. -/
theorem runAll_steps_tableSteps :
    (between (Catalog.build tableBefore) (Catalog.build tableAfter)).steps = tableSteps ∧
      Step.runAll tableSteps (Catalog.build tableBefore).view = (Catalog.build tableAfter).view ∧
      ∀ before s after, tableSteps = before ++ s :: after →
        s.run (Step.runAll before (Catalog.build tableBefore).view) ≠
          Step.runAll before (Catalog.build tableBefore).view := by
  have hsteps : (between (Catalog.build tableBefore) (Catalog.build tableAfter)).steps = tableSteps := by
    decide +kernel
  have hkinds : ∀ s ∈ tableSteps, s.change.isSequence = false := by decide
  obtain ⟨hend, hchange⟩ := runAll_steps tableBefore tableAfter
  rw [hsteps] at hend hchange
  refine ⟨hsteps, hend, fun before s after h => hchange before s after h (hkinds s ?_)⟩
  rw [h]
  exact List.mem_append_right before (.head after)

end Patch

end SchemaPatch
