import SchemaPatch.Proofs.Catalog.Warnings

/-!
# What is attached lasts

A `TablePart` is an index, a constraint, an explicit default or a sequence of a column. A table keeps
each at a place of its own, from which only another part for the same place takes it away. So whatever a
statement attaches, and is not warned about, is there right behind it and for as long as no statement
creates the table again or attaches something else at this place (`Occasion.has_of_lasts`). Together with
the count of the warnings this is `Catalog.attached_or_warned`.
-/

namespace SchemaPatch

/-- Something that a statement attaches to a table. -/
inductive TablePart where
  /-- An index. -/
  | index (i : Index)
  /-- A constraint that has a name. -/
  | constraint (c : Constraint)
  /-- An explicit default. -/
  | default (d : ColumnDefault)
  /-- A sequence of a column. -/
  | link (column sequence : Identifier)
  deriving DecidableEq, Repr

/-- Where a table keeps a part. -/
inductive TablePart.Place where
  /-- Among the indexes, under a name. -/
  | index (name : String)
  /-- Among the constraints, under a name. -/
  | constraint (name : String)
  /-- Among the explicit defaults, under the name of a column. -/
  | default (column : String)
  /-- At a column. -/
  | link (column : String)
  deriving DecidableEq, Repr

namespace TablePart

/-- Where a table keeps the part. -/
def place : TablePart → Place
  | index i => .index i.name.value
  | constraint c => .constraint c.name.value
  | default d => .default d.column.value
  | link column _ => .link column.value

/-- A table with the part. -/
def addTo : TablePart → Table → Table
  | index i => .addIndex i.name i.statement
  | constraint c => .addConstraint c
  | default d => .addDefault d
  | link column sequence => .attach column.value sequence

/-- A sequence can be attached only to a column that is there. -/
def Fits (t : Table) : TablePart → Prop
  | link column _ => t.columns.contains column.value
  | _ => True

end TablePart

/-- A table has a part at its place. -/
def Table.Has (t : Table) : TablePart → Prop
  | .index i => t.indexes.get? i.name.value = some i
  | .constraint c => t.constraints.get? c.name.value = some c
  | .default d => t.defaults.get? d.column.value = some d
  | .link column sequence => (t.column? column.value).bind Column.sequence = some sequence

/-! ### Tables -/

namespace Table

variable {t : Table} {a b : TablePart}

theorem has_addTo (h : a.Fits t) : (a.addTo t).Has a := by
  cases a with
  | index i => exact (Keyed.get?_put ..).trans (if_pos rfl)
  | constraint c => exact (Keyed.get?_put ..).trans (if_pos rfl)
  | default d => exact (Keyed.get?_put ..).trans (if_pos rfl)
  | link column sequence =>
    obtain ⟨c, hc⟩ := Option.isSome_iff_exists.1 (show (t.columns.get? column.value).isSome from h)
    simp [Has, TablePart.addTo, attach, column?, Keyed.get?_modify, hc]

/-- What is attached at another place takes nothing away. -/
theorem has_addTo_of_ne (h : b.place ≠ a.place) (ha : t.Has a) : (b.addTo t).Has a := by
  cases b with
  | index i =>
    cases a with
    | index j =>
      have hname : i.name.value ≠ j.name.value := fun heq => h (congrArg TablePart.Place.index heq)
      exact (Keyed.get?_put ..).trans ((if_neg hname).trans ha)
    | _ => exact ha
  | constraint c =>
    cases a with
    | constraint d =>
      have hname : c.name.value ≠ d.name.value := fun heq =>
        h (congrArg TablePart.Place.constraint heq)
      exact (Keyed.get?_put ..).trans ((if_neg hname).trans ha)
    | _ => exact ha
  | default d =>
    cases a with
    | default e =>
      have hcolumn : d.column.value ≠ e.column.value := fun heq =>
        h (congrArg TablePart.Place.default heq)
      exact (Keyed.get?_put ..).trans ((if_neg hcolumn).trans ha)
    | _ => exact ha
  | link column sequence =>
    cases a with
    | link column' sequence' =>
      have hcolumn : column.value ≠ column'.value := fun heq =>
        h (congrArg TablePart.Place.link heq)
      have hget : (attach column.value sequence t).column? column'.value = t.column? column'.value :=
        (Keyed.get?_modify ..).trans (if_neg hcolumn)
      show ((attach column.value sequence t).column? column'.value).bind Column.sequence = _
      rw [hget]
      exact ha
    | _ => exact ha

theorem fits_addTo (ha : a.Fits t) (b : TablePart) : a.Fits (b.addTo t) := by
  cases a with
  | link column sequence =>
    cases b with
    | link column' sequence' =>
      have hcolumn : (attach column'.value sequence' t).columns.contains column.value =
          t.columns.contains column.value := by
        rw [attach, Keyed.contains, Keyed.get?_modify]
        split
        · exact Option.isSome_map
        · rfl
      exact hcolumn.trans ha
    | _ => exact ha
  | _ => exact trivial

/-- Parts at other places take nothing away. -/
theorem has_foldl_addTo {as : List TablePart} (h : ∀ b ∈ as, b.place ≠ a.place) (ha : t.Has a) :
    (as.foldl (fun t b => b.addTo t) t).Has a := by
  induction as generalizing t with
  | nil => exact ha
  | cons b as ih =>
    obtain ⟨hb, has⟩ := List.forall_mem_cons.1 h
    exact ih has (has_addTo_of_ne hb ha)

theorem fits_foldl_addTo (as : List TablePart) (ha : a.Fits t) :
    a.Fits (as.foldl (fun t b => b.addTo t) t) := by
  induction as generalizing t with
  | nil => exact ha
  | cons b as ih => exact ih (fits_addTo ha b)

end Table

/-! ### Statements -/

/-- What an action attaches. -/
def AlterAction.part? : AlterAction → Option TablePart
  | .addConstraint ⟨none, _, _⟩ => none
  | .addConstraint ⟨some name, kind, columns⟩ => some (.constraint ⟨name, kind, columns⟩)
  | .setDefault column value => some (.default ⟨column, value.sql⟩)

namespace Statement

/-- What a statement attaches to its table, in order, where `schema` is the default. -/
def parts (schema : Identifier) : Statement → List TablePart
  | .createIndex s =>
    s.name.toList.map fun name => .index ⟨name, { s with table := s.table.withSchema schema }⟩
  | .ownSequence s => [.link s.column s.sequence.name]
  | .alterTable s => s.actions.filterMap AlterAction.part?
  | _ => []

/-- Whether a statement creates a table. -/
def isCreation : Statement → Bool
  | .createTable _ => true
  | _ => false

/-- A statement that creates no table adds what it attaches to the table that it names. -/
theorem perform_eq {s : Statement} (hs : s.isCreation = false) (schema : Identifier)
    (t : Option Table) : s.perform schema t =
      t.map fun t => (s.parts schema).foldl (fun t a => a.addTo t) t := by
  cases s with
  | createTable s => cases hs
  | createIndex s =>
    obtain ⟨unique, concurrently, ifNotExists, _ | name, table, method, targets⟩ := s
    · simp [perform, parts]
    · rfl
  | alterTable s =>
    have hactions : ∀ t : Table, s.actions.foldl (fun t a => a.perform t) t =
        (s.actions.filterMap AlterAction.part?).foldl (fun t a => a.addTo t) t := by
      induction s.actions with
      | nil => exact fun _ => rfl
      | cons a actions ih =>
        intro t
        rw [List.foldl_cons, ih]
        cases a with
        | addConstraint constraint => obtain ⟨_ | name, kind, columns⟩ := constraint <;> rfl
        | setDefault column value => rfl
    simp only [perform, parts, hactions]
  | ownSequence s => rfl
  | createSchema _ | createSequence _ | setSearchPath _ => simp [perform, parts]

theorem perform_of_qualified? {s s' : Statement} {schema : Identifier}
    (h : s.qualified? schema = some s') (t : Option Table) :
    s'.perform schema t = s.perform schema t := by
  cases s with
  | setSearchPath _ => cases h
  | _ =>
    cases h
    rfl

end Statement

namespace Occasion

/-- The text by which the table that the statement names is known. -/
def id? (o : Occasion) : Option String := o.statement.table?.map o.id

/-- What the statement attaches. -/
def parts (o : Occasion) : List TablePart := o.statement.parts o.schema

/-- The statement finds its table `n` and attaches something to it, and nothing else at the same place
later on. -/
def Attaches (o : Occasion) (n : ObjectName) (a : TablePart) : Prop :=
  o.statement.table? = some n ∧ o.strays = false ∧
    ∃ done rest, o.parts = done ++ a :: rest ∧ ∀ b ∈ rest, b.place ≠ a.place

/-- Whether the statement creates a table again or attaches something at a place of it. -/
def replaces (id : String) (p : TablePart.Place) (o : Occasion) : Bool :=
  o.id? = some id && (o.statement.isCreation || o.parts.any (·.place = p))

/-- What a statement does to the table that it names. -/
theorem table?_after (o : Occasion) (id : String) : o.after.table? id =
    if o.id? = some id then o.statement.perform o.schema ((Catalog.build o.before).table? id)
    else (Catalog.build o.before).table? id := by
  rw [after_eq]
  cases hs : o.statement.qualified? o.schema with
  | none =>
    have hpath := Statement.qualified?_eq_none_iff.1 hs
    have hid : o.id? = none := by
      rw [id?]
      cases hstatement : o.statement <;> simp_all [Statement.setsPath, Statement.table?]
    rw [Catalog.run_of_setsPath hpath, hid, if_neg (by simp)]
  | some s =>
    have hnames : s.names id ↔ o.id? = some id := by
      rw [Statement.names, Statement.table?_of_qualified? hs, id?, Option.any_map]
      cases o.statement.table? <;> simp [Occasion.id, ObjectName.resolve_sql]
    rw [← Catalog.run_of_qualified? hs _ o.schema,
      Catalog.table?_run _ _ (Statement.isQualified_of_qualified? hs),
      Statement.perform_of_qualified? hs]
    simp only [hnames]

/-- What is at a place of a table stays there behind a statement that does not replace it. -/
theorem has_after {o : Occasion} {id : String} {t : Table} {a : TablePart}
    (ht : (Catalog.build o.before).table? id = some t) (ha : t.Has a)
    (h : o.replaces id a.place = false) : ∃ t', o.after.table? id = some t' ∧ t'.Has a := by
  rw [table?_after, ht]
  split
  · next hid =>
    simp only [replaces, hid, decide_true, Bool.true_and, Bool.or_eq_false_iff, List.any_eq_false,
      decide_eq_true_eq] at h
    rw [Statement.perform_eq h.1]
    exact ⟨_, rfl, Table.has_foldl_addTo h.2 ha⟩
  · exact ⟨t, rfl, ha⟩

/-- A statement that is not warned about for having nothing to work on finds its table, and has a place
for what it attaches. -/
theorem exists_fits {o : Occasion} {n : ObjectName} (hn : o.statement.table? = some n)
    (hstrays : o.strays = false) {a : TablePart} (ha : a ∈ o.parts) :
    o.statement.isCreation = false ∧
      ∃ t, (Catalog.build o.before).table? (o.id n) = some t ∧ a.Fits t := by
  obtain ⟨before, s⟩ := o
  cases s with
  | createTable s => cases ha
  | createIndex s =>
    cases hn
    simp only [strays, straysIndex, straysLink, straysAlter, Bool.or_false, Bool.or_eq_false_iff,
      Bool.not_eq_false', defines_eq] at hstrays
    obtain ⟨t, ht⟩ := Option.isSome_iff_exists.1 hstrays.2
    obtain ⟨name, -, rfl⟩ := List.mem_map.1 ha
    exact ⟨rfl, t, ht, trivial⟩
  | ownSequence s =>
    cases hn
    simp only [strays, straysIndex, straysLink, straysAlter, Bool.or_false, Bool.false_or,
      Bool.or_eq_false_iff, Bool.not_eq_false', definesColumn_eq, Option.any_eq_true] at hstrays
    obtain ⟨t, ht, hcolumn⟩ := hstrays.2
    obtain rfl := List.mem_singleton.1 ha
    exact ⟨rfl, t, ht, hcolumn⟩
  | alterTable s =>
    cases hn
    simp only [strays, straysIndex, straysLink, straysAlter, Bool.false_or, Bool.not_eq_false',
      defines_eq] at hstrays
    obtain ⟨t, ht⟩ := Option.isSome_iff_exists.1 hstrays
    obtain ⟨action, -, haction⟩ := List.mem_filterMap.1 ha
    refine ⟨rfl, t, ht, ?_⟩
    cases action with
    | addConstraint constraint =>
      obtain ⟨_ | name, kind, columns⟩ := constraint <;> cases haction
      exact trivial
    | setDefault column value =>
      cases haction
      exact trivial
  | createSchema _ | createSequence _ | setSearchPath _ => cases hn

/-- What a statement attaches, and does not replace itself, is there behind it. -/
theorem has_of_attaches {o : Occasion} {n : ObjectName} {a : TablePart} (h : o.Attaches n a) :
    ∃ t, o.after.table? (o.id n) = some t ∧ t.Has a := by
  obtain ⟨hn, hstrays, done, rest, hparts, hrest⟩ := h
  have hid : o.id? = some (o.id n) := congrArg (Option.map o.id) hn
  have hmem : a ∈ o.parts := by simp [hparts]
  obtain ⟨hcreation, t, ht, hfits⟩ := exists_fits hn hstrays hmem
  rw [table?_after, if_pos hid, ht, Statement.perform_eq hcreation, Option.map_some]
  refine ⟨_, rfl, ?_⟩
  show Table.Has (o.parts.foldl (fun t b => b.addTo t) t) a
  rw [hparts, List.foldl_append, List.foldl_cons]
  exact Table.has_foldl_addTo hrest (Table.has_addTo (Table.fits_foldl_addTo done hfits))

/-- **What is attached lasts** as long as no statement replaces it. -/
theorem has_of_lasts {o : Occasion} {n : ObjectName} {a : TablePart} (h : o.Attaches n a)
    {l : List Statement} (hl : ∀ x ∈ Catalog.occasionsBehind (o.before ++ [o.statement]) l,
      x.replaces (o.id n) a.place = false) :
    ∃ t, (Catalog.build (o.before ++ o.statement :: l)).table? (o.id n) = some t ∧ t.Has a := by
  induction l using List.reverseRecOn with
  | nil => exact has_of_attaches h
  | append_singleton l s ih =>
    rw [Catalog.occasionsBehind_append] at hl
    obtain ⟨hbefore, hlast⟩ := List.forall_mem_append.1 hl
    obtain ⟨t, ht, ha⟩ := ih hbefore
    have hkept : Occasion.replaces (o.id n) a.place
        ⟨o.before ++ [o.statement] ++ l, s⟩ = false := hlast _ (List.mem_singleton_self _)
    rw [List.append_cons] at ht
    rw [List.append_cons, ← List.append_assoc]
    exact has_after ht ha hkept

end Occasion

namespace Catalog

/-- **Nothing that is attached is lost silently.** The warnings of a run are as many as there are
occasions for them: tables that are defined again, indexes without a name or of unknown tables,
sequences of unknown tables or columns, changes to unknown tables, and constraints without a name that
are added to known ones. A statement that is warned about, but for the first or the last of these,
leaves the catalog as it was, and so does an action that adds a constraint without a name. Anything
else that is attached is there behind its statement, unless a later action of the statement attaches
something else at its place, and stays there until a statement creates the table again or attaches
something else there. -/
theorem attached_or_warned (statements : List Statement) :
    (((notices statements).map Notice.event).countP fun e => e.level = .warn) =
      (occasions statements).countP Occasion.redefines +
        (occasions statements).countP Occasion.straysIndex +
        (occasions statements).countP Occasion.straysLink +
        (occasions statements).countP Occasion.straysAlter +
        ((occasions statements).flatMap Occasion.unnamedConstraints).length ∧
      (∀ o ∈ occasions statements, (∃ n ∈ o.notices, n.event.level = .warn) → o.redefines = false →
        o.unnamedConstraints = [] → o.after = build o.before) ∧
      (∀ o ∈ occasions statements, ∀ (s : AlterTable) (done rest : List AlterAction) (a : AlterAction),
        o.statement = .alterTable { s with actions := done ++ a :: rest } → a.isUnnamed →
          o.after = build (o.before ++ [.alterTable { s with actions := done ++ rest }])) ∧
      ∀ (o : Occasion) (l after : List Statement), statements = o.before ++ o.statement :: l ++ after →
        ∀ (n : ObjectName) (a : TablePart), o.Attaches n a →
          (∀ x ∈ occasionsBehind (o.before ++ [o.statement]) l,
            x.replaces (o.id n) a.place = false) →
            ∃ t, (build (o.before ++ o.statement :: l)).table? (o.id n) = some t ∧ t.Has a := by
  refine ⟨?_, ?_, ?_, fun o l after _ n a h hl => Occasion.has_of_lasts h hl⟩
  · rw [List.countP_map]
    exact countP_warn_notices statements
  · intro o _ hwarned hredefines hunnamed
    exact Occasion.after_of_strays (Occasion.strays_of_warned hwarned hredefines hunnamed)
  · rintro ⟨before, s'⟩ - s done rest a rfl ha
    rw [Occasion.after_eq, build_concat]
    exact run_of_isUnnamed _ _ s done rest ha

/-- The creation of a table without a schema. -/
def creationOfT : Statement := .createTable ⟨⟨none, ⟨"t"⟩⟩, [⟨⟨"a"⟩, .bigint, []⟩]⟩

/-- The same explicit default is set twice by one statement. -/
def defaultSetTwice : Occasion :=
  ⟨[creationOfT], .alterTable ⟨false, ⟨none, ⟨"t"⟩⟩,
    [.setDefault ⟨"a"⟩ (.number "1"), .setDefault ⟨"a"⟩ (.number "2")]⟩⟩

/-- Not everything that a statement attaches is there right behind it: of two explicit defaults that it
sets for one column, only the second is. -/
theorem not_attached_defaultSetTwice :
    ¬ ∀ (o : Occasion) (n : ObjectName) (a : TablePart), o.statement.table? = some n →
      o.strays = false → a ∈ o.parts → ∃ t, o.after.table? (o.id n) = some t ∧ t.Has a := by
  intro hall
  have hsecond : ∀ t ∈ defaultSetTwice.after.table? (defaultSetTwice.id ⟨none, ⟨"t"⟩⟩),
      t.defaults.get? "a" = some ⟨⟨"a"⟩, "2"⟩ := by decide +kernel
  obtain ⟨t, ht, hfirst⟩ := hall defaultSetTwice ⟨none, ⟨"t"⟩⟩ (.default ⟨⟨"a"⟩, "1"⟩) rfl
    (by decide +kernel) (by decide +kernel)
  have hvalues := congrArg (Option.map ColumnDefault.value) ((hsecond t ht).symm.trans hfirst)
  exact absurd hvalues (by decide)

/-- An index is created of a table. -/
def indexedTable : Occasion :=
  ⟨[creationOfT], .createIndex ⟨false, false, false, some ⟨"i"⟩, ⟨none, ⟨"t"⟩⟩, none,
    [⟨.identifier ⟨"a"⟩, false⟩]⟩⟩

/-- A change of the table by which a constraint without a name is lost, and a sequence that belongs to an
unknown column. -/
def lostLater : List Statement :=
  [.alterTable ⟨true, ⟨some ⟨"public"⟩, ⟨"t"⟩⟩,
      [.addConstraint ⟨none, .unique, [⟨"a"⟩]⟩, .addConstraint ⟨some ⟨"k"⟩, .unique, [⟨"a"⟩]⟩]⟩,
    .ownSequence ⟨⟨none, ⟨"s"⟩⟩, ⟨none, ⟨"t"⟩⟩, ⟨"b"⟩⟩]

/-- What is lost is warned about twice, and the index is still there. -/
theorem attached_or_warned_indexedTable :
    (((notices (indexedTable.before ++ indexedTable.statement :: lostLater)).map
        Notice.event).countP fun e => e.level = .warn) = 2 ∧
      ∃ t, (build (indexedTable.before ++ indexedTable.statement :: lostLater)).table?
          (indexedTable.id ⟨none, ⟨"t"⟩⟩) = some t ∧
        ∀ a ∈ indexedTable.parts, t.Has a := by
  obtain ⟨hcount, -, -, hlasts⟩ :=
    attached_or_warned (indexedTable.before ++ indexedTable.statement :: lostLater)
  obtain ⟨a, ha⟩ : ∃ a, indexedTable.parts = [a] := ⟨_, rfl⟩
  have hkept : ∀ a ∈ indexedTable.parts,
      ∀ x ∈ occasionsBehind (indexedTable.before ++ [indexedTable.statement]) lostLater,
        x.replaces (indexedTable.id ⟨none, ⟨"t"⟩⟩) a.place = false := by decide +kernel
  have hattaches : indexedTable.Attaches ⟨none, ⟨"t"⟩⟩ a :=
    ⟨rfl, by decide +kernel, [], [], ha, by simp⟩
  obtain ⟨t, ht, hhas⟩ := hlasts indexedTable lostLater [] (List.append_nil _).symm _ a hattaches
    (hkept a (by simp [ha]))
  refine ⟨hcount.trans (by decide +kernel), t, ht, ?_⟩
  rw [ha]
  exact List.forall_mem_singleton.2 hhas

end Catalog

end SchemaPatch
