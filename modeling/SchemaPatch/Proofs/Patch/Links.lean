import SchemaPatch.Proofs.Catalog.Links
import SchemaPatch.Proofs.Patch.Leads
import SchemaPatch.Proofs.Patch.Performs

/-!
# Sequences that a patch attaches

When a patch that creates tables is read, its statements attach the sequences again (`Step.relink`).
They name the table of the column without its schema, and a patch sets no search path, so what they
attach goes to the table of that name in the public schema. Where all columns with sequences are in
tables of this schema, each sequence comes back to its column (`Patch.relinks_creation`); and no
sequence comes to a table of another one (`Step.unlinked_relinkAll`).
-/

namespace SchemaPatch

/-- What a step of a patch that creates, once it is read, does to the sequences attached to columns.
-/
def Step.relink : Step → Links → Links
  | ⟨table, .createTable definitions⟩, l =>
    Function.update l table.sql (Column.links (Table.columnsOf definitions))
  | ⟨table, .attachSequence sequence column⟩, l =>
    l.attach (QualifiedName.mk Catalog.publicSchema table.name).sql column.value sequence
  | _, l => l

/-- The statement that a step is worded as does to the attached sequences what the step does. -/
theorem Step.Means.links {x : Step} {s : Statement} (h : x.Means s) (c : Catalog) :
    (c.run Catalog.publicSchema s.withoutNulls).1.links = x.relink c.links := by
  cases h with
  | createTable table definitions =>
    show (c.insert (.ofStatement Catalog.publicSchema
      ⟨table.toObjectName, definitions.map .withoutNulls⟩)).links =
        Function.update c.links table.sql (Column.links (Table.columnsOf definitions))
    rw [c.links_insert, ← Table.columnsOf_withoutNulls]
    rfl
  | createSequence table sequence => rfl
  | attachSequence table sequence column => exact c.links_attachSequence ..
  | createIndex => exact c.links_createIndex ..
  | addConstraint => exact c.links_alterTable ..
  | setDefault => exact c.links_alterTable ..

/-! ### Tables of other schemas -/

/-- No sequence is attached to a column of a table that is not in the public schema. -/
def Links.Unlinked (l : Links) : Prop :=
  ∀ id, (∀ name, id ≠ (QualifiedName.mk Catalog.publicSchema name).sql) →
    ∀ column, (l id column).join = none

theorem Step.unlinked_relink {l : Links} (h : l.Unlinked) (x : Step) : (x.relink l).Unlinked := by
  intro id hid column
  obtain ⟨table, change⟩ := x
  cases change with
  | createTable definitions =>
    rw [relink]
    by_cases htable : id = table.sql
    · rw [htable, Function.update_self, Column.links_columnsOf]
    · rw [Function.update_of_ne htable]
      exact h id hid column
  | attachSequence sequence name =>
    rw [relink, Links.attach, Function.update_of_ne (hid _)]
    exact h id hid column
  | _ => exact h id hid column

/-- The steps of a patch attach no sequence to a table that is not in the public schema. -/
theorem Step.unlinked_relinkAll {l : Links} (h : l.Unlinked) (steps : List Step) :
    (steps.foldl (fun l x => x.relink l) l).Unlinked := by
  induction steps generalizing l with
  | nil => exact h
  | cons x steps ih => exact ih (unlinked_relink h x)

/-! ### Tables of the public schema -/

/-- If a sequence is attached to a column of the table, the table is in the public schema. -/
def Table.LinksPublic (t : Table) : Prop :=
  ∀ c ∈ t.columns.values, c.sequence.isSome → t.name.schema = Catalog.publicSchema

instance (t : Table) : Decidable t.LinksPublic :=
  inferInstanceAs (Decidable (∀ c ∈ t.columns.values, c.sequence.isSome →
    t.name.schema = Catalog.publicSchema))

/-- Only tables of the public schema have columns to which a sequence is attached. -/
def Catalog.LinksPublic (c : Catalog) : Prop := ∀ t ∈ c.tables, t.LinksPublic

instance (c : Catalog) : Decidable c.LinksPublic :=
  inferInstanceAs (Decidable (∀ t ∈ c.tables, t.LinksPublic))

/-- Steps lead from links to others. -/
abbrev Step.Relinks (steps : List Step) (before after : Links) : Prop :=
  Leads Step.relink (fun _ => True) steps before after

namespace Step.Relinks

variable {t : Table} {l : Links}

/-- Steps that are not about sequences. -/
theorem idle {β : Type} {f : β → Change} (h : ∀ b l, (Step.mk t.name (f b)).relink l = l)
    (l : Links) (values : List β) : Relinks ((values.map f).map (Step.mk t.name)) l l := by
  rw [List.map_map]
  exact Leads.silent_map (fun b => ⟨trivial, h b l⟩) values

/-- The sequence of a column comes to the column, if its table is in the public schema. -/
theorem column {c : Column} (hpublic : c.sequence.isSome → t.name.schema = Catalog.publicSchema)
    {f : String → Option (Option Identifier)} (hf : f c.name.value = some none) :
    Relinks ((Table.sequenceChanges c).map (Step.mk t.name)) (Function.update l t.id f)
      (Function.update l t.id (Function.update f c.name.value (some c.sequence))) := by
  unfold Table.sequenceChanges
  cases hsequence : c.sequence with
  | none =>
    rw [← hf, Function.update_eq_self]
    exact .nil _
  | some sequence =>
    have hid : (QualifiedName.mk Catalog.publicSchema t.name.name).sql = t.id := by
      rw [← hpublic (by rw [hsequence]; rfl)]
      rfl
    have hattach : (Step.mk t.name (.attachSequence sequence c.name)).relink
        (Function.update l t.id f) =
          Function.update l t.id (Function.update f c.name.value (some (some sequence))) := by
      rw [relink, hid, Links.attach, Function.update_self, Function.update_idem, Column.attachLink,
        hf]
      rfl
    refine .cons (.inl trivial) (.cons (.inl trivial) ?_)
    rw [← hattach]
    exact .nil _

/-- The sequences of the columns of a table come to them, if the table is in the public schema. -/
theorem columns (ht : t.Coherent) (hpublic : t.LinksPublic) :
    Relinks ((t.columns.values.flatMap Table.sequenceChanges).map (Step.mk t.name))
      (Function.update l t.id fun k => (t.columns.get? k).map fun _ => none)
      (Function.update l t.id (Column.links t.columns)) := by
  rw [List.map_flatMap]
  refine Leads.all (Function.update l t.id) ht.columns.nodup ?_ fun e he f hf => ?_
  · intro k hk
    rw [Column.links, hk]
    rfl
  · have hget := Keyed.get?_of_mem ht.columns.nodup he
    have hname := ht.columns.name_eq e he
    have hbefore : f e.2.name.value = some none := by rw [hname, hf, hget]; rfl
    have hafter : Column.links t.columns e.1 = some e.2.sequence := by rw [Column.links, hget]; rfl
    rw [hafter, ← hname]
    exact column (hpublic e.2 (List.mem_map_of_mem he)) hbefore

/-- What is done for a new table attaches the sequences of its columns, if the table is in the public
schema. -/
theorem ofNew (ht : t.Coherent) (hpublic : t.LinksPublic) (l : Links) :
    Relinks (Block.ofNew t).steps l (Function.update l t.id (Column.links t.columns)) := by
  let created := Function.update l t.id fun k => (t.columns.get? k).map fun _ => none
  let linked := Function.update l t.id (Column.links t.columns)
  have hcreated : Relinks [⟨t.name, .createTable t.definitions⟩] l created := by
    have hrun : (Step.mk t.name (.createTable t.definitions)).relink l = created := by
      rw [relink, ht.links_columnsOf]
      rfl
    refine .cons (.inl trivial) ?_
    rw [hrun]
    exact .nil _
  have hsequences : Relinks ((t.columns.values.flatMap Table.sequenceChanges).map (Step.mk t.name))
      created linked := columns ht hpublic
  have hindexes := idle (t := t) (f := .createIndex) (fun _ _ => rfl) linked t.indexes.values
  have hconstraints := idle (t := t) (f := .addConstraint) (fun _ _ => rfl) linked t.constraints.values
  have hdefaults := idle (t := t) (f := .setDefault) (fun _ _ => rfl) linked t.defaults.values
  have hall := (((hcreated.append hsequences).append hindexes).append hconstraints).append hdefaults
  rw [Block.steps, Block.ofNew, Table.creation]
  simpa only [List.map_append, List.map_cons, List.cons_append, List.nil_append] using hall

end Step.Relinks

/-- A patch that creates tables attaches the sequences of their columns again, if all of these are in
tables of the public schema. -/
theorem Patch.relinks_creation {c : Catalog} (hc : c.Coherent) (hpublic : c.LinksPublic) :
    Step.Relinks (between .empty c).steps Catalog.empty.links c.links := by
  rw [steps, blocks_creation, List.flatMap_map]
  refine Leads.all id hc.sorted.nodup (f := Catalog.empty.links) (g := c.links) ?_
    fun e he l _ => ?_
  · intro id hid
    rw [Catalog.links, Catalog.table?, hid]
    rfl
  · have hid : e.2.id = e.1 := hc.id_eq e he
    have hlinks : c.links e.1 = Column.links e.2.columns := by
      rw [Catalog.links, hc.table?_of_mem he]
      rfl
    rw [hlinks, ← hid]
    exact Step.Relinks.ofNew (hc.table e he) (hpublic e.2 (List.mem_map_of_mem he)) l

end SchemaPatch
