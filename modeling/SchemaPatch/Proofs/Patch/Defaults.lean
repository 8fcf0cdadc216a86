import SchemaPatch.Document.Basic
import SchemaPatch.Proofs.Patch.Leads
import SchemaPatch.Proofs.Patch.Order

/-!
# Default values that a patch leaves

A column may get its default value in two ways: in its definition, or by itself, which then counts.
The database keeps one value for both. A patch compares the two apart, so the removal of the one
may take away the other: this is so where a column had an explicit default and is to have none but
an inline one, and where it keeps its explicit default and the inline one changes
(`Table.LosesDefault`). In all other cases a column that is there before and after has the default
value it should have (`Patch.runDefaults_eq_iff`).
-/

namespace SchemaPatch

namespace Table

variable (t : Table)

/-- The default value in the definition of a column. -/
def inlineDefault? (column : String) : Option String := (t.columns.get? column).bind Column.default

/-- The explicit default of a column. -/
def explicitDefault? (column : String) : Option String :=
  (t.defaults.get? column).map ColumnDefault.value

/-- The default value of a column: the explicit one if there is one, else the inline one. -/
def effectiveDefault? (column : String) : Option String :=
  (t.explicitDefault? column).or (t.inlineDefault? column)

/-- A column has an explicit default, and it is to have none but an inline one, or to keep it with
another inline default. -/
def LosesDefault (source desired : Table) (column : String) : Prop :=
  ∃ value, source.explicitDefault? column = some value ∧
    ((desired.explicitDefault? column = none ∧ desired.inlineDefault? column ≠ none) ∨
      (desired.explicitDefault? column = some value ∧
        desired.inlineDefault? column ≠ source.inlineDefault? column ∧
        desired.inlineDefault? column ≠ some value))

end Table

namespace Change

/-- What a change does to the default values of columns. -/
def defaults : Change → (String → Option String) → String → Option String
  | setInlineDefault column value, f => Function.update f column.value value
  | dropDefault column, f => Function.update f column.value none
  | setDefault default, f => Function.update f default.column.value (some default.value)
  | _, f => f

/-- What changes do to the default values of columns, one after the other. -/
def runDefaults (changes : List Change) (f : String → Option String) : String → Option String :=
  changes.foldl (fun f x => x.defaults f) f

/-- Changes lead from default values of columns to others. -/
abbrev LeadDefaults (changes : List Change) (before after : String → Option String) : Prop :=
  Leads Change.defaults (fun _ => True) changes before after

namespace LeadDefaults

variable {f : String → Option String}

/-- One change. -/
theorem single (x : Change) : LeadDefaults [x] f (x.defaults f) := .cons (.inl trivial) (.nil _)

/-- Changes that are not about default values. -/
theorem idle {β : Type} (l : List β) {x : β → Change} (h : ∀ b f, (x b).defaults f = f) :
    LeadDefaults (l.map x) f f :=
  Leads.silent_map (fun b => ⟨trivial, h b f⟩) l

/-- A column becomes another one of its name: its default value changes if the inline ones differ. -/
theorem column (source desired : Column) : LeadDefaults (source.changes desired) f
    (Function.update f desired.name.value
      (if source.default = desired.default then f desired.name.value else desired.default)) := by
  have hone : ∀ {p : Prop} [Decidable p] {x : Change}, (∀ f, x.defaults f = f) →
      LeadDefaults (if p then [] else [x]) f f := by
    intro p _ x hx
    split
    · exact .nil f
    · exact .cons (.inl trivial) (by rw [hx]; exact .nil f)
  refine ((hone fun _ => rfl).append (hone fun _ => rfl)).append ?_
  split
  · rw [Function.update_eq_self]
    exact .nil f
  · exact single _

end LeadDefaults

end Change

/-! ### Changes to a table -/

section Changes

variable {source desired : Table} {f : String → Option String}

theorem Table.inlineDefault?_of_get? {t : Table} {k : String} {c : Column}
    (h : t.columns.get? k = some c) : t.inlineDefault? k = c.default := by
  rw [inlineDefault?, h]
  rfl

theorem Table.explicitDefault?_isSome_iff {t : Table} {k : String} :
    (t.explicitDefault? k).isSome ↔ k ∈ t.defaults.keys := by
  rw [← Decidable.not_iff_not, Option.not_isSome_iff_eq_none, explicitDefault?,
    Option.map_eq_none_iff, Keyed.get?_eq_none_iff]

namespace Change.LeadDefaults

/-- The changes to the columns set the default values of those that stay to the inline ones, where
these differ. -/
theorem columnChanges (hs : source.Coherent) (hd : desired.Coherent) :
    ∃ g, LeadDefaults (source.columnChanges desired) f g ∧
      ∀ k, source.columns.contains k → desired.columns.contains k →
        g k = if source.inlineDefault? k = desired.inlineDefault? k then f k
          else desired.inlineDefault? k := by
  let g := fun k => if desired.columns.contains k then
    if source.inlineDefault? k = desired.inlineDefault? k then f k else desired.inlineDefault? k
    else f k
  have hdropped : LeadDefaults ((source.columns.missingFrom desired.columns).map fun c =>
      .dropColumn c.name) f f := idle _ fun _ _ => rfl
  have hpaired : LeadDefaults
      ((source.columns.pairedWith desired.columns).flatMap fun p => p.1.changes p.2) f
      (fun k => if k ∈ source.columns.keys then g k else f k) := by
    apply Leads.paired id hs.columns.nodup
    · intro k hk
      simp [Keyed.contains, hk]
    · intro e he b hb f' hf'
      have hname : b.name.value = e.1 := hd.columns.name_eq (e.1, b) (Keyed.mem_of_get? hb)
      have hcontains : desired.columns.contains e.1 := by rw [Keyed.contains, hb]; rfl
      have hget := Keyed.get?_of_mem hs.columns.nodup he
      have hg : g e.1 = if e.2.default = b.default then f' e.1 else b.default := by
        rw [hf']
        simp only [g, hcontains, if_true, Table.inlineDefault?_of_get? hget,
          Table.inlineDefault?_of_get? hb]
      show LeadDefaults (e.2.changes b) f' (Function.update f' e.1 (g e.1))
      rw [hg, ← hname]
      exact column e.2 b
  refine ⟨_, (hdropped.append hpaired).append (idle _ fun _ _ => rfl), fun k hk hk' => ?_⟩
  have hmem : k ∈ source.columns.keys := by
    by_contra hnot
    simp [Keyed.contains_eq_false_iff.2 hnot] at hk
  simp only [if_pos hmem, g, hk', if_true]

/-- The changes to the explicit defaults take away those that are gone and set those that come. -/
theorem defaultChanges (hs : source.Coherent) (hd : desired.Coherent) :
    ∃ g, LeadDefaults (source.defaultChanges desired) f g ∧
      ∀ k, g k = match source.explicitDefault? k, desired.explicitDefault? k with
        | some _, none => none
        | none, some value => some value
        | _, _ => f k := by
  let f' := fun k => if k ∈ source.defaults.keys ∧ k ∉ desired.defaults.keys then none else f k
  have hdropped : LeadDefaults
      ((source.defaults.missingFrom desired.defaults).flatMap fun d => [.dropDefault d.column]) f f' := by
    refine Leads.missing id hs.defaults.nodup fun e he _ f' _ => ?_
    rw [← hs.defaults.name_eq e he]
    exact single _
  have hset : LeadDefaults
      ((desired.defaults.missingFrom source.defaults).flatMap fun d => [.setDefault d]) f'
      (fun k => if k ∈ desired.defaults.keys ∧ k ∉ source.defaults.keys
        then desired.explicitDefault? k else f' k) := by
    refine Leads.missing id hd.defaults.nodup fun e he _ f'' _ => ?_
    have hvalue : desired.explicitDefault? e.1 = some e.2.value := by
      rw [Table.explicitDefault?, Keyed.get?_of_mem hd.defaults.nodup he]
      rfl
    rw [hvalue, ← hd.defaults.name_eq e he]
    exact single _
  rw [Table.defaultChanges, List.map_eq_flatMap, List.map_eq_flatMap]
  refine ⟨_, hdropped.append hset, fun k => ?_⟩
  simp only [f', ← Table.explicitDefault?_isSome_iff]
  cases source.explicitDefault? k <;> cases desired.explicitDefault? k <;> simp

/-- What the changes to a table do to the default value of a column that stays. -/
theorem changes (hs : source.Coherent) (hd : desired.Coherent) :
    ∃ g, LeadDefaults (source.changes desired) f g ∧
      ∀ k, source.columns.contains k → desired.columns.contains k →
        g k = match source.explicitDefault? k, desired.explicitDefault? k with
          | some _, none => none
          | none, some value => some value
          | _, _ => if source.inlineDefault? k = desired.inlineDefault? k then f k
            else desired.inlineDefault? k := by
  obtain ⟨g, hcolumns, hg⟩ := columnChanges (f := f) hs hd
  have hindexes : LeadDefaults (source.indexChanges desired) g g :=
    (idle _ fun _ _ => rfl).append (idle _ fun _ _ => rfl)
  have hconstraints : LeadDefaults (source.constraintChanges desired) g g :=
    (idle _ fun _ _ => rfl).append (idle _ fun _ _ => rfl)
  obtain ⟨g', hdefaults, hg'⟩ := defaultChanges (f := g) hs hd
  refine ⟨g', ((hcolumns.append hindexes).append hconstraints).append hdefaults, fun k hk hk' => ?_⟩
  simp only [hg', hg k hk hk']

end Change.LeadDefaults

/-- The changes to a table leave a column that stays with the default value it should have, unless
it loses that. -/
theorem Table.runDefaults_changes_iff (hs : source.Coherent) (hd : desired.Coherent) {column : String}
    (hbefore : source.columns.contains column) (hafter : desired.columns.contains column)
    (hequal : ∀ v w, source.explicitDefault? column = some v →
      desired.explicitDefault? column = some w → v = w) :
    Change.runDefaults (source.changes desired) source.effectiveDefault? column =
      desired.effectiveDefault? column ↔ ¬ source.LosesDefault desired column := by
  obtain ⟨g, hlead, hg⟩ := Change.LeadDefaults.changes (f := source.effectiveDefault?) hs hd
  rw [Change.runDefaults, hlead.foldl_eq, hg column hbefore hafter]
  simp only [LosesDefault, effectiveDefault?]
  cases hexplicit : source.explicitDefault? column with
  | none =>
    cases hexplicit' : desired.explicitDefault? column with
    | none => simp
    | some w => simp
  | some v =>
    cases hexplicit' : desired.explicitDefault? column with
    | none => simp [eq_comm]
    | some w =>
      obtain rfl := hequal v w hexplicit hexplicit'
      by_cases hinline : source.inlineDefault? column = desired.inlineDefault? column
      · simp [hinline]
      · simp [hinline, Ne.symm hinline]

end Changes

/-! ### Patches -/

namespace Patch

/-- **A patch leaves a column of a table that is there before and after with the default value that
it should have, exactly if the column does not lose that**, where the explicit defaults of both
catalogs agree. -/
theorem runDefaults_eq_iff (before after : List Statement)
    {table : QualifiedName} {s d : Table} (hs : (Catalog.build before).table? table.sql = some s)
    (hd : (Catalog.build after).table? table.sql = some d) {column : String}
    (hbefore : s.columns.contains column) (hafter : d.columns.contains column)
    (hequal : ∀ v w, s.explicitDefault? column = some v → d.explicitDefault? column = some w → v = w) :
    Change.runDefaults ((between (Catalog.build before) (Catalog.build after)).changesTo table)
        s.effectiveDefault? column = d.effectiveDefault? column ↔ ¬ s.LosesDefault d column := by
  have hcoherent := Catalog.build_coherent before
  have hcoherent' := Catalog.build_coherent after
  rw [changesTo_between hcoherent hcoherent' hs hd]
  exact Table.runDefaults_changes_iff (hcoherent.table _ (Keyed.mem_of_get? hs))
    (hcoherent'.table _ (Keyed.mem_of_get? hd)) hbefore hafter hequal

/-- A table whose column has an explicit default. -/
def explicitlyDefaulted : List Statement :=
  (Document.ofText "old" ("CREATE TABLE t (a bigint); " ++
    "ALTER TABLE t ALTER COLUMN a SET DEFAULT 1;")).statements

/-- The same table with the default value in the definition of its column. -/
def inlineDefaulted : List Statement :=
  (Document.ofText "new" "CREATE TABLE t (a bigint DEFAULT 1);").statements

/-- A column whose explicit default becomes an inline one is left without one. -/
theorem runDefaults_explicitlyDefaulted : ∃ s d,
    (Catalog.build explicitlyDefaulted).table? (QualifiedName.mk ⟨"public"⟩ ⟨"t"⟩).sql = some s ∧
      (Catalog.build inlineDefaulted).table? (QualifiedName.mk ⟨"public"⟩ ⟨"t"⟩).sql = some d ∧
      Change.runDefaults ((between (Catalog.build explicitlyDefaulted)
        (Catalog.build inlineDefaulted)).changesTo ⟨⟨"public"⟩, ⟨"t"⟩⟩) s.effectiveDefault? "a" ≠
          d.effectiveDefault? "a" := by
  obtain ⟨s, hs, hsource⟩ := (Option.any_eq_true _ _).1 (show ((Catalog.build
    explicitlyDefaulted).table? (QualifiedName.mk ⟨"public"⟩ ⟨"t"⟩).sql).any (fun t =>
      t.columns.contains "a" ∧ t.explicitDefault? "a" = some "1") by decide +kernel)
  obtain ⟨d, hd, hdesired⟩ := (Option.any_eq_true _ _).1 (show ((Catalog.build
    inlineDefaulted).table? (QualifiedName.mk ⟨"public"⟩ ⟨"t"⟩).sql).any (fun t =>
      t.columns.contains "a" ∧ t.explicitDefault? "a" = none ∧
        t.inlineDefault? "a" = some "1") by decide +kernel)
  obtain ⟨hbefore, hvalue⟩ := of_decide_eq_true hsource
  obtain ⟨hafter, hnone, hinline⟩ := of_decide_eq_true hdesired
  refine ⟨s, d, hs, hd, fun heq => ?_⟩
  refine (runDefaults_eq_iff explicitlyDefaulted inlineDefaulted hs hd hbefore hafter ?_).1 heq ?_
  · intro v w _ hw
    simp [hnone] at hw
  · exact ⟨"1", hvalue, .inl ⟨hnone, by simp [hinline]⟩⟩

end Patch

end SchemaPatch
