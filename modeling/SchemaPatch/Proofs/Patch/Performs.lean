import SchemaPatch.Proofs.Catalog.Effect
import SchemaPatch.Proofs.Patch.Wording

/-!
# Texts that perform changes

Reading the statements that the steps of a patch are worded as and building a catalog of them does
what the steps are meant to do, as far as a comparison sees it (`Step.Means.view`).
`Performs text steps` says this of a text and the steps of a patch; it holds of a text that tells what
the steps are worded as (`Performs.of_tells`).
-/

namespace SchemaPatch

/-- A definition without the conditions that have no text defines the same column. -/
theorem Column.ofDefinition_withoutNulls (d : ColumnDefinition) :
    ofDefinition d.withoutNulls = ofDefinition d := by
  obtain ⟨name, type, constraints⟩ := d
  have hnull : (constraints.filter (· ≠ .null)).contains .notNull = constraints.contains .notNull := by
    simp
  have hdefault : (constraints.filter (· ≠ .null)).filterMap ColumnConstraint.default? =
      constraints.filterMap ColumnConstraint.default? := by
    induction constraints with
    | nil => rfl
    | cons k ks ih => cases k <;> simp_all [List.filterMap_cons, ColumnConstraint.default?]
  simp only [ofDefinition, ColumnDefinition.withoutNulls, ColumnDefinition.isNotNull,
    ColumnDefinition.default?, hnull, hdefault]

theorem Table.columnsOf_withoutNulls (definitions : List ColumnDefinition) :
    columnsOf (definitions.map .withoutNulls) = columnsOf definitions := by
  rw [columnsOf, columnsOf, List.foldl_map]
  congr 1
  funext m d
  rw [Column.ofDefinition_withoutNulls]
  rfl

namespace Step.Means

variable {x : Step} {s : Statement}

/-- The search path stays as it is. -/
theorem schemaBehind (h : x.Means s) (schema : Identifier) :
    Catalog.schemaBehind schema s.withoutNulls = schema := by
  cases h <;> rfl

/-- The statement does to what is seen of a catalog what the step does. -/
theorem view (h : x.Means s) (c : Catalog) (schema : Identifier) :
    (c.run schema s.withoutNulls).1.view = x.run c.view := by
  cases h with
  | createTable table definitions =>
    have hview : (Table.ofStatement schema
        ⟨table.toObjectName, definitions.map .withoutNulls⟩).view = .ofDefinitions definitions := by
      rw [TableView.ofDefinitions, ← Table.columnsOf_withoutNulls]
      rfl
    refine (c.view_insert _).trans ?_
    rw [hview]
    rfl
  | createSequence table sequence => exact (Step.run_of_isSequence rfl c.view).symm
  | attachSequence table sequence column =>
    rw [Step.run_of_isSequence rfl]
    exact c.view_attachSequence ..
  | @createIndex table i hname htable =>
    have hresolve : i.statement.table.resolve schema = table := by rw [htable]; rfl
    show (c.createIndex (i.statement.table.resolve schema) i.statement).1.view = _
    rw [hresolve, c.view_createIndex table hname, Step.run, Change.effect]
    simp only [hname]
  | addConstraint table constraint =>
    exact c.view_alterTable schema true (c.view_modify fun t => t.view_addConstraint _)
  | setDefault table column value =>
    exact c.view_alterTable schema true (c.view_modify fun t => t.view_addDefault _)

end Step.Means

/-- If the statements that steps are worded as do to something about a catalog what a function of the
steps says, all of them do to it what the function makes of the steps one after the other. -/
theorem Step.runAll_of_means {σ : Type} {observed : Catalog → σ} {f : σ → Step → σ}
    {schema : Identifier}
    (h : ∀ {x s}, Means x s → ∀ c : Catalog,
      observed (c.run schema s.withoutNulls).1 = f (observed c) x)
    {steps : List Step} {l : List Statement} (hall : List.Forall₂ Means steps l) (c : Catalog) :
    observed (c.runAll schema (l.map .withoutNulls)).1 = steps.foldl f (observed c) := by
  induction hall generalizing c with
  | nil => rfl
  | cons hmeans _ ih =>
    rw [List.map_cons, Catalog.runAll, List.foldl_cons, ← h hmeans c, hmeans.schemaBehind]
    exact ih _

/-- The text is lexed to statements that can be read back and that do to every catalog what the steps
do to what is seen of it. -/
def Performs (text : String) (steps : List Step) : Prop :=
  ∃ l : List Statement, (∀ s ∈ l, s.Readable Symbol.Survives) ∧
    (∀ rest, symbols (text.toList ++ rest) = Statement.symbolsAll l ++ symbols rest) ∧
    ∀ (c : Catalog) (schema : Identifier),
      (c.runAll schema (l.map Statement.withoutNulls)).1.view = Step.runAll steps c.view

/-- A text that tells what steps are worded as performs the steps. -/
theorem Performs.of_tells {text : String} {l : List Statement} {steps : List Step} (h : Tells text l)
    (hall : List.Forall₂ Step.Means steps l) : Performs text steps :=
  ⟨l, h.readable, h.lexes, fun c schema =>
    Step.runAll_of_means (fun hmeans c => hmeans.view c schema) hall c⟩

end SchemaPatch
