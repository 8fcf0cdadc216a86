import Mathlib.Data.List.Forall2
import SchemaPatch.Proofs.Catalog.Coherent
import SchemaPatch.Proofs.Catalog.Legible
import SchemaPatch.Proofs.Patch.Effect
import SchemaPatch.Proofs.Sql.LexingStatement
import SchemaPatch.Proofs.Token.Restart

/-!
# Changes worded as statements

The text of a patch is made of the texts of its changes. Those that create a table are statements of
the language themselves: `Step.Means` gives the statement that a step is worded as, and its text is
lexed to that statement (`Step.Means.tells`). So a patch that creates tables tells one statement for
each of its steps (`Patch.tells_creation`).
-/

namespace SchemaPatch

/-! ### Names on one line -/

namespace QualifiedName

/-- What of the text of a name is not on its first line. -/
def spill (n : QualifiedName) : List Char := n.sql.toList.dropWhile Gap.inLine

/-- Neither the schema nor the name within it contains a line feed. -/
structure OnOneLine (n : QualifiedName) : Prop where
  schema : '\n' ∉ n.schema.value.toList
  name : '\n' ∉ n.name.value.toList

instance (n : QualifiedName) : Decidable n.OnOneLine :=
  decidable_of_iff ('\n' ∉ n.schema.value.toList ∧ '\n' ∉ n.name.value.toList)
    ⟨fun h => ⟨h.1, h.2⟩, fun h => ⟨h.schema, h.name⟩⟩

theorem OnOneLine.sql {n : QualifiedName} (h : n.OnOneLine) : '\n' ∉ n.sql.toList := by
  rw [QualifiedName.sql, toObjectName, ObjectName.sql_toList_some]
  simp [Quoted.quote, Quoted.mem_double, h.schema, h.name]

/-- A name on one line spills nothing. -/
theorem OnOneLine.spill_eq_nil {n : QualifiedName} (h : n.OnOneLine) : n.spill = [] := by
  have hline : ∀ c ∈ n.sql.toList, Gap.inLine c := by
    intro c hc
    have hne : c ≠ '\n' := fun heq => h.sql (heq ▸ hc)
    simpa [Gap.inLine] using hne
  rw [spill, ← List.append_nil n.sql.toList, List.dropWhile_append_of_pos hline, List.dropWhile_nil]

end QualifiedName

/-! ### Texts and symbols -/

/-- Whatever follows it, the text is lexed to the symbols. -/
def LexesTo (text : String) (xs : List Symbol) : Prop :=
  ∀ rest, symbols (text.toList ++ rest) = xs ++ symbols rest

namespace LexesTo

variable {text text' : String} {xs ys : List Symbol}

theorem symbols_eq (h : LexesTo text xs) : symbols text.toList = xs := by
  have hself := h []
  rwa [List.append_nil, symbols_nil, List.append_nil] at hself

theorem append (h : LexesTo text xs) (h' : LexesTo text' ys) :
    LexesTo (text ++ text') (xs ++ ys) := fun rest => by
  rw [String.toList_append, List.append_assoc, h, h', List.append_assoc]

theorem empty : LexesTo "" [] := fun _ => rfl

theorem lineFeed : LexesTo "\n" [] := symbols_lineFeed

end LexesTo

/-- The comment ends with the first line of the name. -/
theorem Block.symbols_header (table : QualifiedName) (rest : List Char) :
    symbols ((Block.header table).toList ++ rest) = symbols (table.spill ++ '\n' :: rest) := by
  have htext : (Block.header table).toList ++ rest =
      '-' :: '-' :: (" Table: ".toList ++ (table.sql.toList ++ '\n' :: rest)) := by
    simp [Block.header]
  have hlabel : ∀ c ∈ " Table: ".toList, Gap.inLine c := List.all_eq_true.1 rfl
  obtain ⟨-, hdrop⟩ := takeWhile_append_cons (p := Gap.inLine) (c := '\n') rfl table.sql.toList rest
  rw [htext, symbols_lineComment, List.dropWhile_append_of_pos hlabel, hdrop]
  rfl

/-- The text is lexed to statements that can be read back. -/
structure Tells (text : String) (l : List Statement) : Prop where
  readable : ∀ s ∈ l, s.Readable Symbol.Survives
  lexes : LexesTo text (Statement.symbolsAll l)

namespace Tells

variable {text text' : String} {l l' : List Statement}

theorem silent (h : LexesTo text []) : Tells text [] := ⟨by simp, h⟩

theorem append (h : Tells text l) (h' : Tells text' l') : Tells (text ++ text') (l ++ l') := by
  refine ⟨fun s hs => ?_, ?_⟩
  · rcases List.mem_append.1 hs with hs | hs
    · exact h.readable s hs
    · exact h'.readable s hs
  · have hsymbols := h.lexes.append h'.lexes
    rwa [Statement.symbolsAll, Statement.symbolsAll, ← List.flatMap_append] at hsymbols

/-- The comment with a name on one line tells nothing. -/
theorem header {table : QualifiedName} (h : table.OnOneLine) : Tells (Block.header table) [] :=
  silent fun rest => by
    rw [Block.symbols_header, h.spill_eq_nil]
    exact symbols_lineFeed rest

/-- A text that is lexed to one statement. -/
theorem one {s : Statement} (hs : s.Readable Symbol.Survives)
    (htext : ∀ rest, symbols (text.toList ++ rest) = s.symbols ++ Symbol.semicolon :: symbols rest) :
    Tells text [s] := by
  refine ⟨by simpa using hs, fun rest => ?_⟩
  rw [htext]
  simp [Statement.symbolsAll]

/-- The text of a statement tells the statement. -/
theorem statement {s : Statement} (hs : s.Readable Symbol.Survives) : Tells s.sql [s] :=
  one hs fun rest => Statement.symbols_sql hs rest

end Tells

/-! ### Changes that create -/

namespace Change

variable (table : QualifiedName)

/-- The statement that creates a sequence. -/
def sequenceStatement (sequence : Identifier) : CreateSequence :=
  ⟨⟨some table.schema, sequence⟩, none, some 1, some 1, true, true, some 1⟩

theorem readable_sequenceStatement (sequence : Identifier) :
    (Statement.createSequence (sequenceStatement table sequence)).Readable Symbol.Survives := by
  have hone : ∀ n ∈ some (1 : Int64), IsReadableInteger n := by
    intro n hn
    cases hn
    unfold IsReadableInteger
    decide
  exact ⟨by simp [sequenceStatement], hone, hone, hone⟩

/-- The options of a sequence are written on one line, which makes no difference. -/
theorem symbols_createSequence (sequence : Identifier) (rest : List Char) :
    symbols (((createSequence sequence).sql table).toList ++ rest) =
      (sequenceStatement table sequence).symbols ++ Symbol.semicolon :: symbols rest := by
  have htext : ((createSequence sequence).sql table).toList ++ rest =
      (Keyword.phrase [.CREATE, .SEQUENCE]).toList ++
      ((ObjectName.mk (some table.schema) sequence).sql.toList ++
        ' ' :: ((Keyword.phrase [.START, .WITH]).toList ++ ((Decimal.ofNat 1).toList ++
        ' ' :: ((Keyword.phrase [.INCREMENT, .BY]).toList ++ ((Decimal.ofNat 1).toList ++
        ' ' :: ((Keyword.phrase [.NO, .MINVALUE, .NO, .MAXVALUE, .CACHE]).toList ++
          ((Decimal.ofNat 1).toList ++ ';' :: rest))))))) := by
    have hcreate : "CREATE SEQUENCE " = Keyword.phrase [.CREATE, .SEQUENCE] := rfl
    delta sql
    simp only [hcreate, String.toList_append, List.append_assoc]
    rfl
  rw [htext, symbols_phrase, ObjectName.symbols_sql _ (by simp), symbols_space, symbols_phrase,
    symbols_number 1 (by simp), symbols_space, symbols_phrase, symbols_number 1 (by simp),
    symbols_space, symbols_phrase, symbols_number 1 (by simp), symbols_semicolon]
  rfl

/-- A change to a table alone is written like a statement with one action. -/
theorem alterOnly_sql (a : AlterAction) : alterOnly table a.sql =
    (Statement.alterTable ⟨true, table.toObjectName, [a]⟩).sql := by
  have honly : "ALTER TABLE ONLY " = "ALTER TABLE " ++ "ONLY " := rfl
  show "ALTER TABLE ONLY " ++ table.sql ++ " " ++ a.sql ++ ";" =
    "ALTER TABLE " ++ "ONLY " ++ table.sql ++ " " ++ a.sql ++ ";"
  rw [honly]

theorem addConstraint_sql (c : Constraint) : (addConstraint c).sql table =
    (Statement.alterTable ⟨true, table.toObjectName,
      [.addConstraint ⟨some c.name, c.kind, c.columns⟩]⟩).sql := by
  have hadd : "ADD CONSTRAINT " = "ADD " ++ "CONSTRAINT " := rfl
  rw [← alterOnly_sql]
  show alterOnly table ("ADD CONSTRAINT " ++ c.name.sql ++ " " ++ c.kind.sql ++ " (" ++
      listed (c.columns.map Identifier.sql) ++ ")") =
    alterOnly table ("ADD " ++ ("CONSTRAINT " ++ c.name.sql ++ " " ++ c.kind.sql ++ " (" ++
      listed (c.columns.map Identifier.sql) ++ ")"))
  simp only [hadd, String.append_assoc]

theorem readable_addConstraint {c : Constraint} (h : c.columns ≠ []) :
    (Statement.alterTable ⟨true, table.toObjectName,
      [.addConstraint ⟨some c.name, c.kind, c.columns⟩]⟩).Readable Symbol.Survives := by
  have haction : (AlterAction.addConstraint ⟨some c.name, c.kind, c.columns⟩).Readable
      Symbol.Survives := h
  exact ⟨by simp, by simpa using haction⟩

theorem readable_setDefault (column : Identifier) {value : Expression}
    (h : value.Readable Symbol.Survives) :
    (Statement.alterTable ⟨true, table.toObjectName, [.setDefault column value]⟩).Readable
      Symbol.Survives := by
  have haction : (AlterAction.setDefault column value).Readable Symbol.Survives := h
  exact ⟨by simp, by simpa using haction⟩

end Change

/-- A step of a patch is worded as a statement. The table is named with its schema, but for that of
a column to which a sequence is attached. -/
inductive Step.Means : Step → Statement → Prop where
  /-- A table is created. -/
  | createTable (table : QualifiedName) (definitions : List ColumnDefinition) :
      Means ⟨table, .createTable definitions⟩ (.createTable ⟨table.toObjectName, definitions⟩)
  /-- A sequence is created. -/
  | createSequence (table : QualifiedName) (sequence : Identifier) :
      Means ⟨table, .createSequence sequence⟩
        (.createSequence (Change.sequenceStatement table sequence))
  /-- A sequence is attached. -/
  | attachSequence (table : QualifiedName) (sequence column : Identifier) :
      Means ⟨table, .attachSequence sequence column⟩
        (.ownSequence ⟨⟨some table.schema, sequence⟩, ⟨none, table.name⟩, column⟩)
  /-- An index is created. -/
  | createIndex {table : QualifiedName} {i : Index} : i.statement.name = some i.name →
      i.statement.table = table.toObjectName →
      Means ⟨table, .createIndex i⟩ (.createIndex i.statement)
  /-- A constraint is added. -/
  | addConstraint (table : QualifiedName) (c : Constraint) :
      Means ⟨table, .addConstraint c⟩
        (.alterTable ⟨true, table.toObjectName, [.addConstraint ⟨some c.name, c.kind, c.columns⟩]⟩)
  /-- A column gets an explicit default. -/
  | setDefault (table : QualifiedName) (column : Identifier) (value : Expression) :
      Means ⟨table, .setDefault ⟨column, value.sql⟩⟩
        (.alterTable ⟨true, table.toObjectName, [.setDefault column value]⟩)

/-- The text of a step tells the statement that it is worded as. -/
theorem Step.Means.tells {x : Step} {s : Statement} (h : x.Means s)
    (hs : s.Readable Symbol.Survives) : Tells (x.change.sql x.table) [s] := by
  cases h with
  | createTable => exact .statement hs
  | createSequence table sequence => exact .one hs (Change.symbols_createSequence table sequence)
  | attachSequence => exact .statement hs
  | createIndex => exact .statement hs
  | addConstraint table c =>
    rw [Change.addConstraint_sql]
    exact .statement hs
  | setDefault table column value =>
    have htext := Change.alterOnly_sql table (.setDefault column value)
    have htells := Tells.statement hs
    rw [← htext] at htells
    exact htells

/-! ### New tables -/

/-- Each change that is made for a new table is worded as a statement that can be read back. -/
theorem Table.means_creation {t : Table} (ht : t.Coherent) (hl : t.Legible Symbol.Survives) :
    ∀ x ∈ t.creation, ∃ s : Statement, (Step.mk t.name x).Means s ∧ s.Readable Symbol.Survives := by
  intro x hx
  simp only [creation, Keyed.values, List.mem_append, List.mem_cons, List.mem_flatMap,
    List.mem_map] at hx
  rcases hx with (((rfl | ⟨column, -, hx⟩) | ⟨-, ⟨e, he, rfl⟩, rfl⟩) |
    ⟨-, ⟨e, he, rfl⟩, rfl⟩) | ⟨-, ⟨e, he, rfl⟩, rfl⟩
  · exact ⟨_, .createTable t.name t.definitions, hl.definitions⟩
  · unfold sequenceChanges at hx
    split at hx
    · next sequence _ =>
      simp only [List.mem_cons, List.not_mem_nil, or_false] at hx
      rcases hx with rfl | rfl
      · exact ⟨_, .createSequence t.name sequence,
          Change.readable_sequenceStatement t.name sequence⟩
      · exact ⟨_, .attachSequence t.name sequence column.name, trivial⟩
    · cases hx
  · exact ⟨_, .createIndex (ht.indexName e he) (ht.indexTable e he), hl.indexes e he⟩
  · exact ⟨_, .addConstraint t.name e.2, Change.readable_addConstraint t.name (hl.constraints e he)⟩
  · obtain ⟨value, hvalue, htext⟩ := hl.defaults e he
    obtain ⟨k, column, text⟩ := e
    subst htext
    exact ⟨_, .setDefault t.name column value, Change.readable_setDefault t.name column hvalue⟩

namespace Block

theorem tells_changesSql {table : QualifiedName} {changes : List Change}
    (h : ∀ x ∈ changes, ∃ s : Statement, (Step.mk table x).Means s ∧ s.Readable Symbol.Survives) :
    ∃ l, Tells (changesSql table changes) l ∧
      List.Forall₂ Step.Means (changes.map (Step.mk table)) l := by
  induction changes with
  | nil => exact ⟨[], .silent .empty, .nil⟩
  | cons x changes ih =>
    obtain ⟨⟨s, hmeans, hs⟩, hchanges⟩ := List.forall_mem_cons.1 h
    obtain ⟨l, htells, hall⟩ := ih hchanges
    exact ⟨s :: l, ((hmeans.tells hs).append (.silent .lineFeed)).append htells, .cons hmeans hall⟩

/-- The block of a new table whose name is on one line tells a statement for each of its steps. -/
theorem tells_ofNew {t : Table} (ht : t.Coherent) (hl : t.Legible Symbol.Survives)
    (hname : t.name.OnOneLine) :
    ∃ l, Tells (ofNew t).sql l ∧ List.Forall₂ Step.Means (ofNew t).steps l := by
  obtain ⟨l, hchanges, hall⟩ := tells_changesSql (Table.means_creation ht hl)
  have hblock := ((Tells.header hname).append hchanges).append (.silent .lineFeed)
  rw [List.nil_append, List.append_nil] at hblock
  exact ⟨l, hblock, hall⟩

end Block

theorem Patch.tells_blocksSql {blocks : List Block}
    (h : ∀ b ∈ blocks, ∃ l, Tells b.sql l ∧ List.Forall₂ Step.Means b.steps l) :
    ∃ l, Tells (blocksSql blocks) l ∧
      List.Forall₂ Step.Means (blocks.flatMap Block.steps) l := by
  induction blocks with
  | nil => exact ⟨[], .silent .empty, .nil⟩
  | cons b blocks ih =>
    obtain ⟨⟨l, hb, hall⟩, hblocks⟩ := List.forall_mem_cons.1 h
    obtain ⟨l', hb', hall'⟩ := ih hblocks
    exact ⟨l ++ l', hb.append hb', List.rel_append hall hall'⟩

theorem Patch.blocks_creation (c : Catalog) :
    (between .empty c).blocks = c.tables.map Block.ofNew :=
  congrArg (List.map Block.ofNew) (Keyed.missingFrom_empty c.entries)

/-- The patch that creates the tables of a catalog tells a statement for each of its steps. -/
theorem Patch.tells_creation {c : Catalog} (hc : c.Coherent) (hl : c.Legible Symbol.Survives)
    (hnames : ∀ t ∈ c.tables, t.name.OnOneLine) :
    ∃ l, Tells (between .empty c).sql l ∧ List.Forall₂ Step.Means (between .empty c).steps l := by
  apply tells_blocksSql
  intro b hb
  rw [blocks_creation] at hb
  obtain ⟨t, ht, rfl⟩ := List.mem_map.1 hb
  obtain ⟨e, he, rfl⟩ := List.mem_map.1 ht
  exact Block.tells_ofNew (hc.table e he) (hl e he) (hnames e.2 ht)

end SchemaPatch
