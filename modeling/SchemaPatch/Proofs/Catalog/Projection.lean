import Mathlib.Data.List.Sort
import SchemaPatch.Proofs.Catalog.Coherent
import SchemaPatch.Proofs.Catalog.Resolution

/-!
# Tables by themselves

What stands in a catalog under the name of a table is the work of the statements that name this table,
in their order (`Catalog.table?_runAll`), and a catalog is nothing but its tables
(`Catalog.Coherent.ext`). So a table is what the statements from its last creation on make of it, and
statements about different tables can change places (`Catalog.build_tablewise`).
-/

namespace SchemaPatch

/-! ### What a statement does to its table -/

/-- What an action does to a table. -/
def AlterAction.perform : AlterAction → Table → Table
  | .addConstraint ⟨none, _, _⟩, t => t
  | .addConstraint ⟨some name, kind, columns⟩, t => t.addConstraint ⟨name, kind, columns⟩
  | .setDefault column value, t => t.addDefault ⟨column, value.sql⟩

namespace Statement

/-- What a statement does to the table that it names, which may not be there before, where `schema`
is the default. -/
def perform (schema : Identifier) : Statement → Option Table → Option Table
  | .createTable s, _ => some (.ofStatement schema s)
  | .createIndex s, t =>
    match s.name with
    | some name => t.map (.addIndex name { s with table := s.table.withSchema schema })
    | none => t
  | .ownSequence s, t => t.map (.attach s.column.value s.sequence.name)
  | .alterTable s, t => t.map fun t => s.actions.foldl (fun t a => a.perform t) t
  | _, t => t

/-- Whether a statement names the table that is known by a text. -/
def names (id : String) (s : Statement) : Bool := s.table?.any fun n => n.sql = id

/-- Whether a statement creates the table that is known by a text. -/
def creates (id : String) : Statement → Bool
  | .createTable s => s.table.sql = id
  | _ => false

/-- Where `schema` is the default, two statements name no table in common. -/
def Apart (schema : Identifier) (s s' : Statement) : Prop :=
  ∀ n ∈ s.table?, ∀ n' ∈ s'.table?, n.resolve schema ≠ n'.resolve schema

instance (schema : Identifier) (s s' : Statement) : Decidable (s.Apart schema s') :=
  inferInstanceAs (Decidable (∀ n ∈ s.table?, ∀ n' ∈ s'.table?, n.resolve schema ≠ n'.resolve schema))

variable {s : Statement} {id : String} {schema : Identifier}

theorem names_iff : s.names id ↔ ∃ n ∈ s.table?, n.sql = id := by
  simp only [names, Option.any_eq_true, decide_eq_true_eq, Option.mem_def]

theorem names_of_creates (h : s.creates id) : s.names id := by
  cases s with
  | createTable s => exact h
  | _ => cases h

/-- A statement names one table only. -/
theorem names_unique {id' : String} (h : s.names id) (h' : s.names id') : id = id' := by
  obtain ⟨n, hn, rfl⟩ := names_iff.1 h
  obtain ⟨n', hn', rfl⟩ := names_iff.1 h'
  rw [Option.mem_unique hn hn']

/-- A statement leaves a table there that is there, and brings one only by creating it. -/
theorem isSome_perform (hs : s.names id) (t : Option Table) :
    (s.perform schema t).isSome ↔ t.isSome ∨ s.creates id := by
  cases s with
  | createTable s => exact iff_of_true rfl (.inr hs)
  | createIndex s => cases hname : s.name <;> simp [perform, creates, hname]
  | _ => simp [perform, creates]

theorem isSome_foldl_perform {l : List Statement} (hl : ∀ s ∈ l, s.names id) (t : Option Table) :
    (l.foldl (fun t s => s.perform schema t) t).isSome ↔ t.isSome ∨ ∃ s ∈ l, s.creates id := by
  induction l generalizing t with
  | nil => simp
  | cons s l ih =>
    obtain ⟨hs, hl⟩ := List.forall_mem_cons.1 hl
    rw [List.foldl_cons, ih hl, isSome_perform hs, or_assoc, List.exists_mem_cons_iff]

end Statement

/-! ### What a statement does to a catalog -/

/-- A value that is not there, or that the change leaves alone, is not changed. -/
theorem Keyed.modify_eq_self {β : Type} {m : Keyed β} {k : String} {f : β → β}
    (h : ∀ v, m.get? k = some v → f v = v) : m.modify k f = m := by
  obtain ⟨l⟩ := m
  simp only [get?, modify] at *
  congr
  induction l with
  | nil => rfl
  | cons e l ih => grind [find?, modifyIn]

/-- A sequence cannot be attached to a column that is not there. -/
theorem Table.attach_of_column?_eq_none {t : Table} {column : String} (h : t.column? column = none)
    (sequence : Identifier) : t.attach column sequence = t := by
  have hnone : ∀ c, t.columns.get? column = some c → { c with sequence := some sequence } = c := by
    intro c hc
    cases h.symm.trans hc
  rw [attach, Keyed.modify_eq_self hnone]

namespace Catalog

variable (c : Catalog) (table : QualifiedName) (id : String)

theorem table?_insert (t : Table) :
    (c.insert t).table? id = if t.id = id then some t else c.table? id :=
  Keyed.get?_putSorted ..

theorem table?_modify (id' : String) (f : Table → Table) :
    (c.modify id' f).table? id = if id' = id then (c.table? id).map f else c.table? id :=
  Keyed.get?_modify ..

variable {c}

theorem modify_eq_self {id : String} {f : Table → Table} (h : ∀ t, c.table? id = some t → f t = t) :
    c.modify id f = c := by
  rw [modify, Keyed.modify_eq_self h]

variable (c)

theorem createIndex_of_name {s : CreateIndex} {name : Identifier} (hname : s.name = some name) :
    (c.createIndex table s).1 =
      c.modify table.sql (.addIndex name { s with table := table.toObjectName }) := by
  rw [createIndex, hname]
  dsimp only
  split
  · next hnone => exact (modify_eq_self fun t ht => nomatch hnone.symm.trans ht).symm
  · rfl

theorem attachSequence_fst (column sequence : Identifier) :
    (c.attachSequence table column sequence).1 =
      c.modify table.sql (.attach column.value sequence) := by
  unfold attachSequence
  split
  · next hnone => exact (modify_eq_self fun t ht => nomatch hnone.symm.trans ht).symm
  · next t ht =>
    split
    · next hnone =>
      refine (modify_eq_self fun t' ht' => ?_).symm
      cases ht.symm.trans ht'
      exact Table.attach_of_column?_eq_none hnone sequence
    · rfl

theorem table?_alterTable (a : AlterAction) :
    (c.alterTable table a).1.table? id =
      if table.sql = id then (c.table? id).map a.perform else c.table? id := by
  cases a with
  | setDefault column value => exact c.table?_modify ..
  | addConstraint constraint =>
    obtain ⟨_ | name, kind, columns⟩ := constraint
    · have hperform : (AlterAction.addConstraint ⟨none, kind, columns⟩).perform = fun t => t := rfl
      simp [alterTable, hperform]
    · exact c.table?_modify ..

theorem table?_alterTableAll (actions : List AlterAction) :
    (c.alterTableAll table actions).1.table? id =
      if table.sql = id then (c.table? id).map fun t => actions.foldl (fun t a => a.perform t) t
      else c.table? id := by
  induction actions generalizing c with
  | nil => simp [alterTableAll]
  | cons a actions ih =>
    rw [alterTableAll, ih, table?_alterTable]
    split
    · rw [Option.map_map]
      rfl
    · rfl

/-- A qualified statement does something to the table that it names, and nothing to another. -/
theorem table?_run {s : Statement} (hs : s.isQualified) (schema : Identifier) :
    (c.run schema s).1.table? id =
      if s.names id then s.perform schema (c.table? id) else c.table? id := by
  have hsql : ∀ n, s.table? = some n → (n.resolve schema).sql = n.sql := by
    intro n hn
    simp only [Statement.isQualified, hn, Option.all_some, Bool.and_eq_true] at hs
    rw [ObjectName.resolve_sql, ObjectName.withSchema_of_isSome hs.2]
  cases s with
  | createTable s =>
    have hid : (Table.ofStatement schema s).id = s.table.sql := hsql _ rfl
    simp only [run, createTable, table?_insert, hid, Statement.names, Statement.table?,
      Option.any_some, decide_eq_true_eq, Statement.perform]
  | createIndex s =>
    simp only [run, Statement.names, Statement.table?, Option.any_some, decide_eq_true_eq,
      Statement.perform, ← hsql _ rfl]
    obtain ⟨unique, concurrently, ifNotExists, _ | name, table, method, targets⟩ := s
    · simp [createIndex]
    · rw [createIndex_of_name _ _ rfl, table?_modify]
      rfl
  | ownSequence s =>
    simp only [run, attachSequence_fst, table?_modify, Statement.names, Statement.table?,
      Option.any_some, decide_eq_true_eq, Statement.perform, ← hsql _ rfl]
  | alterTable s =>
    simp only [run, Statement.names, Statement.table?, Option.any_some, decide_eq_true_eq,
      Statement.perform, ← hsql _ rfl]
    split
    · next hnone =>
      split
      · next hid => rw [← hid, hnone]; rfl
      · rfl
    · exact c.table?_alterTableAll ..
  | createSchema _ | createSequence _ => rfl
  | setSearchPath _ => cases hs

/-- What stands under the name of a table behind qualified statements is what those of them that name
it have made of what stood there before. -/
theorem table?_runAll {l : List Statement} (hl : ∀ s ∈ l, s.isQualified) (schema : Identifier) :
    (c.runAll schema l).1.table? id =
      (l.filter (·.names id)).foldl (fun t s => s.perform schema t) (c.table? id) := by
  induction l generalizing c with
  | nil => rfl
  | cons s l ih =>
    obtain ⟨hs, hl⟩ := List.forall_mem_cons.1 hl
    have hschema : schemaBehind schema s = schema := by
      cases s with
      | setSearchPath _ => cases hs
      | _ => rfl
    simp only [runAll, hschema]
    rw [ih _ hl, c.table?_run id hs, List.filter_cons]
    split <;> rfl

end Catalog

/-! ### A catalog is its tables -/

/-- Lists in order in which the same is found are the same. -/
theorem Keyed.Sorted.ext {β : Type} {m m' : Keyed β} (hm : m.Sorted) (hm' : m'.Sorted)
    (h : ∀ k, m.get? k = m'.get? k) : m = m' := by
  have hmem : ∀ e, e ∈ m.entries ↔ e ∈ m'.entries := fun e =>
    ⟨fun he => mem_of_get? ((h e.1).symm.trans (get?_of_mem hm.nodup he)),
      fun he => mem_of_get? ((h e.1).trans (get?_of_mem hm'.nodup he))⟩
  have : Std.Irrefl fun e e' : String × β => e.1 < e'.1 := ⟨fun e => String.lt_irrefl e.1⟩
  have : Std.Antisymm fun e e' : String × β => e.1 < e'.1 :=
    ⟨fun e _ hlt hgt => absurd (String.lt_trans hlt hgt) (String.lt_irrefl e.1)⟩
  exact congrArg Keyed.mk
    ((List.pairwise_map.1 hm).eq_of_mem_iff (List.pairwise_map.1 hm') hmem)

namespace Catalog

theorem Coherent.ext {c c' : Catalog} (hc : c.Coherent) (hc' : c'.Coherent)
    (h : ∀ id, c.table? id = c'.table? id) : c = c' :=
  congrArg Catalog.mk (hc.sorted.ext hc'.sorted h)

/-- The statements that name the table which is known by a text, with the names as they are read where
the statements stand. -/
def concerning (id : String) (statements : List Statement) : List Statement :=
  (qualified statements).filter (·.names id)

/-- Statements create a table that is known by a text. -/
def Defines (statements : List Statement) (id : String) : Prop :=
  ∃ s ∈ qualified statements, s.creates id

instance (statements : List Statement) (id : String) : Decidable (Defines statements id) :=
  inferInstanceAs (Decidable (∃ s ∈ qualified statements, s.creates id))

theorem names_of_mem_concerning {statements : List Statement} {id : String} {s : Statement}
    (h : s ∈ concerning id statements) : s.names id :=
  (List.mem_filter.1 h).2

theorem isQualified_of_mem_concerning {statements : List Statement} {id : String} {s : Statement}
    (h : s ∈ concerning id statements) : s.isQualified :=
  isQualified_of_mem_qualifiedBehind (List.mem_filter.1 h).1

theorem defines_iff {statements : List Statement} {id : String} :
    Defines statements id ↔ ∃ s ∈ concerning id statements, s.creates id := by
  simp only [concerning, List.mem_filter, and_assoc]
  exact exists_congr fun s =>
    and_congr_right fun _ => (and_iff_right_of_imp Statement.names_of_creates).symm

theorem table?_build_of_isQualified {l : List Statement} (hl : ∀ s ∈ l, s.isQualified) (id : String) :
    (build l).table? id = (l.filter (·.names id)).foldl (fun t s => s.perform publicSchema t) none :=
  empty.table?_runAll id hl publicSchema

/-- What stands under the name of a table is what the statements that name it make. -/
theorem table?_build (statements : List Statement) (id : String) : (build statements).table? id =
    (concerning id statements).foldl (fun t s => s.perform publicSchema t) none := by
  rw [build, ← fold_qualified, ← build]
  exact table?_build_of_isQualified (fun _ hs => isQualified_of_mem_qualifiedBehind hs) id

theorem isSome_table?_build_iff (statements : List Statement) (id : String) :
    ((build statements).table? id).isSome ↔ Defines statements id := by
  rw [table?_build, Statement.isSome_foldl_perform fun _ => names_of_mem_concerning, defines_iff]
  simp

/-- Statements of which the same ones name each table, in the same order, leave the same catalog. -/
theorem build_eq_of_concerning_eq {statements others : List Statement}
    (h : ∀ id, concerning id others = concerning id statements) : build statements = build others :=
  (build_coherent statements).ext (build_coherent others) fun id => by
    rw [table?_build, table?_build, h]

/-! ### From the last creation on -/

/-- Statements that all name one table leave this table alone. -/
theorem build_eq_insert {l : List Statement} (hl : ∀ s ∈ l, s.isQualified) {id : String}
    (hnames : ∀ s ∈ l, s.names id) {t : Table}
    (ht : l.foldl (fun t s => s.perform publicSchema t) none = some t) : build l = empty.insert t := by
  have hcoherent := build_coherent l
  have htable : (build l).table? id = some t := by
    rw [table?_build_of_isQualified hl, List.filter_eq_self.2 hnames, ht]
  have hmem := Keyed.mem_of_get? htable
  have hid : t.id = id := hcoherent.id_eq (id, t) hmem
  refine hcoherent.ext (.insert .empty (hcoherent.table (id, t) hmem)) fun id' => ?_
  rw [table?_insert, hid]
  by_cases h : id = id'
  · rw [if_pos h, ← h, htable]
  · have hnone : l.filter (·.names id') = [] := List.filter_eq_nil_iff.2 fun s hs hs' =>
      h (Statement.names_unique (hnames s hs) hs')
    rw [if_neg h, table?_build_of_isQualified hl, hnone]
    rfl

/-- From a creation of a table on, the statements that name the table make of it what all of them
make. -/
theorem build_of_creation {statements before after : List Statement} {id : String} {s : CreateTable}
    (hsplit : concerning id statements = before ++ .createTable s :: after) {t : Table}
    (ht : (build statements).table? id = some t) : build (.createTable s :: after) = empty.insert t := by
  have hsub : ∀ x ∈ Statement.createTable s :: after, x ∈ concerning id statements := fun x hx => by
    rw [hsplit]
    exact List.mem_append_right _ hx
  refine build_eq_insert (fun x hx => isQualified_of_mem_concerning (hsub x hx))
    (fun x hx => names_of_mem_concerning (hsub x hx)) ?_
  rw [table?_build, hsplit, List.foldl_append] at ht
  exact ht

/-- Statements that create a table create it for the last time somewhere. -/
theorem exists_last_creation {statements : List Statement} {id : String}
    (h : Defines statements id) : ∃ (before : List Statement) (s : CreateTable) (after : List Statement),
      concerning id statements = before ++ .createTable s :: after ∧
        ∀ x ∈ after, x.creates id = false := by
  obtain ⟨x, hx⟩ := Option.isSome_iff_exists.1 (List.find?_isSome.2
    (show ∃ x ∈ (concerning id statements).reverse, x.creates id by simpa using defines_iff.1 h))
  obtain ⟨hcreates, after, before, hsplit, hlast⟩ := List.find?_eq_some_iff_append.1 hx
  cases x with
  | createTable s =>
    refine ⟨before.reverse, s, after.reverse, ?_, ?_⟩
    · simpa using congrArg List.reverse hsplit
    · simpa using hlast
  | _ => cases hcreates

/-! ### Statements that change places -/

/-- Lists of which at most one has anything in it can be put together in any order. -/
theorem flatten_eq_of_perm {α : Type} {l l' : List (List α)} (h : l.Perm l')
    (hl : l.Pairwise fun a b => a = [] ∨ b = []) : l.flatten = l'.flatten := by
  induction h with
  | nil => rfl
  | cons a _ ih => rw [List.flatten_cons, List.flatten_cons, ih (List.pairwise_cons.1 hl).2]
  | swap a b l => rcases (List.pairwise_cons.1 hl).1 a (by simp) with rfl | rfl <;> simp
  | trans h _ ih ih' => exact (ih hl).trans (ih' (h.pairwise hl fun hab => hab.symm))

/-- Of two groups of statements that name no table in common, only one names a given table. -/
theorem filter_names_of_apart {schema : Identifier} {l m : List Statement}
    (h : ∀ s ∈ l, ∀ s' ∈ m, s.Apart schema s') (id : String) :
    (l.filterMap (·.qualified? schema)).filter (·.names id) = [] ∨
      (m.filterMap (·.qualified? schema)).filter (·.names id) = [] := by
  have hnamed : ∀ {l : List Statement}, (l.filterMap (·.qualified? schema)).filter (·.names id) ≠ [] →
      ∃ s ∈ l, ∃ n ∈ s.table?, (n.resolve schema).sql = id := by
    intro l hl
    obtain ⟨x, hx⟩ := List.exists_mem_of_ne_nil _ hl
    obtain ⟨hx, hnames⟩ := List.mem_filter.1 hx
    obtain ⟨s, hs, hx⟩ := List.mem_filterMap.1 hx
    obtain ⟨whole, hwhole, hid⟩ := Statement.names_iff.1 hnames
    rw [Statement.table?_of_qualified? hx] at hwhole
    obtain ⟨n, hn, rfl⟩ := Option.mem_map.1 hwhole
    exact ⟨s, hs, n, hn, hid⟩
  by_contra! hboth
  obtain ⟨s, hs, n, hn, hid⟩ := hnamed hboth.1
  obtain ⟨s', hs', n', hn', hid'⟩ := hnamed hboth.2
  exact h s hs s' hs' n hn n' hn' (QualifiedName.sql_injective (hid.trans hid'.symm))

/-- Groups of statements that name no table in common can be put in any order. -/
theorem concerning_flatten_of_perm (before after : List Statement)
    {groups groups' : List (List Statement)} (hperm : groups.Perm groups')
    (hpath : ∀ g ∈ groups, ∀ s ∈ g, s.setsPath = false)
    (hapart : groups.Pairwise fun g g' => ∀ s ∈ g, ∀ s' ∈ g', s.Apart (schemaInForce before) s')
    (id : String) : concerning id (before ++ groups.flatten ++ after) =
      concerning id (before ++ groups'.flatten ++ after) := by
  have hflat : ∀ {groups : List (List Statement)}, (∀ g ∈ groups, ∀ s ∈ g, s.setsPath = false) →
      ∀ s ∈ groups.flatten, s.setsPath = false := fun h s hs => by
    obtain ⟨g, hg, hs⟩ := List.mem_flatten.1 hs
    exact h g hg s hs
  have hpath' : ∀ g ∈ groups', ∀ s ∈ g, s.setsPath = false := fun g hg => hpath g (hperm.mem_iff.2 hg)
  rw [concerning, concerning, qualified_around (hflat hpath), qualified_around (hflat hpath')]
  simp only [List.filter_append, List.filterMap_flatten, List.filter_flatten, List.map_map]
  rw [flatten_eq_of_perm (hperm.map _)]
  exact List.pairwise_map.2 (hapart.imp fun h => filter_names_of_apart h id)

/-- **A table is what the statements that name it make of it from its last creation on**, with the
names as they are read where the statements stand. So the order of statements counts for each table
by itself only: neighbours that name different tables can change places, and groups of statements
that name no table in common can be put in any order. -/
theorem build_tablewise (statements : List Statement) :
    (∀ id, ((build statements).table? id).isSome ↔ Defines statements id) ∧
      (∀ id t, (build statements).table? id = some t →
        ∃ (before : List Statement) (s : CreateTable) (after : List Statement),
          concerning id statements = before ++ .createTable s :: after ∧
            (∀ x ∈ after, x.creates id = false) ∧ (build (.createTable s :: after)).tables = [t]) ∧
      (∀ others, (∀ id, concerning id others = concerning id statements) →
        Interchangeable statements others) ∧
      (∀ (before : List Statement) (x y : Statement) (after : List Statement),
        statements = before ++ x :: y :: after → x.setsPath = false → y.setsPath = false →
          x.Apart (schemaInForce before) y →
            Interchangeable statements (before ++ y :: x :: after)) ∧
      ∀ (before : List Statement) (groups groups' : List (List Statement)) (after : List Statement),
        statements = before ++ groups.flatten ++ after → groups.Perm groups' →
          (∀ g ∈ groups, ∀ s ∈ g, s.setsPath = false) →
            groups.Pairwise (fun g g' => ∀ s ∈ g, ∀ s' ∈ g', s.Apart (schemaInForce before) s') →
              Interchangeable statements (before ++ groups'.flatten ++ after) := by
  refine ⟨isSome_table?_build_iff statements, ?_, ?_, ?_, ?_⟩
  · intro id t ht
    have hdefines := (isSome_table?_build_iff statements id).1 (by rw [ht]; rfl)
    obtain ⟨before, s, after, hsplit, hlast⟩ := exists_last_creation hdefines
    refine ⟨before, s, after, hsplit, hlast, ?_⟩
    rw [build_of_creation hsplit ht]
    rfl
  · intro others h
    exact .of_build_eq (build_eq_of_concerning_eq h)
  · rintro before x y after rfl hx hy hapart
    have hswap := concerning_flatten_of_perm before after (List.Perm.swap [y] [x] [])
      (by simp [hx, hy]) (by simpa using hapart)
    exact .of_build_eq (build_eq_of_concerning_eq fun id => by simpa using (hswap id).symm)
  · rintro before groups groups' after rfl hperm hpath hapart
    have hgroups := concerning_flatten_of_perm before after hperm hpath hapart
    exact .of_build_eq (build_eq_of_concerning_eq fun id => (hgroups id).symm)

/-- A table of the schema `app` with an index. -/
def firstCreation : List Statement :=
  [.setSearchPath ⟨[.identifier ⟨"app"⟩]⟩, .createTable ⟨⟨none, ⟨"t"⟩⟩, [⟨⟨"a"⟩, .bigint, []⟩]⟩,
    .createIndex ⟨false, false, false, some ⟨"i"⟩, ⟨none, ⟨"t"⟩⟩, none, [⟨.identifier ⟨"a"⟩, false⟩]⟩]

/-- Another table. -/
def otherCreation : Statement :=
  .createTable ⟨⟨some ⟨"public"⟩, ⟨"u"⟩⟩, [⟨⟨"a"⟩, .bigint, []⟩]⟩

/-- The first table once more, with a constraint. -/
def secondCreation : List Statement :=
  [.createTable ⟨⟨none, ⟨"t"⟩⟩, [⟨⟨"b"⟩, .bigint, []⟩]⟩,
    .alterTable ⟨true, ⟨some ⟨"app"⟩, ⟨"t"⟩⟩, [.addConstraint ⟨some ⟨"k"⟩, .unique, [⟨"b"⟩]⟩]⟩]

/-- The name of the table that is created twice. -/
def createdTwice : QualifiedName := ⟨⟨"app"⟩, ⟨"t"⟩⟩

/-- The table is what its second creation makes of it, which can as well come before the other table. -/
theorem build_tablewise_createdTwice :
    ((build (firstCreation ++ otherCreation :: secondCreation)).table? createdTwice.sql).isSome ∧
      (∃ t, ∃ (before : List Statement) (s : CreateTable) (after : List Statement),
        (build (firstCreation ++ otherCreation :: secondCreation)).table? createdTwice.sql = some t ∧
          concerning createdTwice.sql (firstCreation ++ otherCreation :: secondCreation) =
              before ++ .createTable s :: after ∧
            (build (.createTable s :: after)).tables = [t]) ∧
      [[otherCreation], secondCreation].Pairwise
        (fun g g' => ∀ s ∈ g, ∀ s' ∈ g', s.Apart (schemaInForce firstCreation) s') ∧
      Interchangeable (firstCreation ++ otherCreation :: secondCreation)
        (firstCreation ++ [secondCreation, [otherCreation]].flatten ++ []) := by
  obtain ⟨-, hlast, -, -, hgroups⟩ :=
    build_tablewise (firstCreation ++ otherCreation :: secondCreation)
  have hsome : ((build (firstCreation ++ otherCreation :: secondCreation)).table?
      createdTwice.sql).isSome := by decide +kernel
  have hapart : [[otherCreation], secondCreation].Pairwise
      (fun g g' => ∀ s ∈ g, ∀ s' ∈ g', s.Apart (schemaInForce firstCreation) s') := by decide +kernel
  obtain ⟨t, ht⟩ := Option.isSome_iff_exists.1 hsome
  obtain ⟨before, s, after, hsplit, -, htables⟩ := hlast _ t ht
  exact ⟨hsome, ⟨t, before, s, after, ht, hsplit, htables⟩, hapart,
    hgroups firstCreation [[otherCreation], secondCreation] _ [] rfl (.swap ..) (by decide) hapart⟩

end Catalog

end SchemaPatch
