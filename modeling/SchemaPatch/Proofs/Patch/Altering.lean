import SchemaPatch.Proofs.Grammar.ReadsCreate
import SchemaPatch.Proofs.Patch.Wording
import SchemaPatch.Proofs.Sql.Unambiguous

/-!
# Changes worded as altering statements

The statements of a patch that alter or drop what is there are none that a document may hold. They
have a syntax of their own here, `AlteringStatement`, with the symbols that they are written as and
with what they do to what is seen of a table. `Step.Alters` gives the one that a step is worded as.
The text of the step is lexed to its symbols (`Step.Alters.lexes`), it does what the step does
(`Step.Alters.effect_eq`), and it can be told from its symbols (`AlteringStatement.symbols_inj`). So
what an altering step does can be told from its text (`Step.Alters.of_sql_eq`).
-/

namespace SchemaPatch

/-! ### Texts with a space behind them -/

/-- Before a text that stands apart, the text is lexed to the symbols. -/
def LexesApart (text : String) (xs : List Symbol) : Prop :=
  ∀ rest, Apart rest → symbols (text.toList ++ rest) = xs ++ symbols rest

/-- The symbol of a word. -/
def Symbol.ofWord (w : String) : Symbol := ⟨Lexeme.wordKind w.toList, w⟩

/-- Words with a space behind each. -/
def spaced : List String → String
  | [] => ""
  | w :: ws => w ++ " " ++ spaced ws

namespace LexesApart

variable {text text' : String} {xs ys : List Symbol}

/-- A semicolon ends a text for good. -/
theorem semicolon (h : LexesApart text xs) : LexesTo (text ++ ";") (xs ++ [.semicolon]) := by
  intro rest
  have htext : (text ++ ";").toList ++ rest = text.toList ++ ';' :: rest := by simp
  rw [htext, h _ (by simp), symbols_semicolon, List.append_assoc]
  rfl

theorem word {w : String} (hw : isWord w) : LexesApart w [.ofWord w] := fun _ h =>
  symbols_word hw rfl h

theorem name (n : Identifier) : LexesApart n.sql [.name n] := fun _ h =>
  symbols_name n (h.head?_ne (by decide))

theorem qualifiedName (n : QualifiedName) : LexesApart n.sql n.toObjectName.symbols := fun _ h =>
  n.toObjectName.symbols_sql (h.head?_ne (by decide))

theorem dataType (t : DataType) : LexesApart t.sql t.symbols := fun _ h => t.symbols_sql h

theorem expression {e : Expression} (he : e.Readable Symbol.Survives) :
    LexesApart e.sql e.symbols := fun _ h => Expression.symbols_sql he.spelled h

theorem definition {d : ColumnDefinition} (hd : d.Readable Symbol.Survives) :
    LexesApart d.sql d.symbols := fun _ h => ColumnDefinition.symbols_sql hd h

/-- Two texts with a space between them. -/
theorem space (h : LexesApart text xs) (h' : LexesApart text' ys) :
    LexesApart (text ++ " " ++ text') (xs ++ ys) := by
  intro rest hr
  have htext : (text ++ " " ++ text').toList ++ rest =
      text.toList ++ ' ' :: (text'.toList ++ rest) := by simp
  rw [htext, h _ (by simp), symbols_space, h' _ hr, List.append_assoc]

/-- A text behind words. -/
theorem behind (h : LexesApart text xs) (ws : List String) (hws : ws.all isWord) :
    LexesApart (spaced ws ++ text) (ws.map .ofWord ++ xs) := by
  induction ws with
  | nil => rwa [spaced, String.empty_append]
  | cons w ws ih =>
    simp only [List.all_cons, Bool.and_eq_true] at hws
    rw [spaced, String.append_assoc]
    exact (word hws.1).space (ih hws.2)

/-- A text behind which words stand. -/
theorem before (h : LexesApart text xs) (ws : List String) (w : String) {tail : String}
    (htail : tail = " " ++ (spaced ws ++ w)) (hws : ws.all isWord) (hw : isWord w) :
    LexesApart (text ++ tail) (xs ++ (ws.map .ofWord ++ [.ofWord w])) := by
  rw [htail, ← String.append_assoc]
  exact h.space ((word hw).behind ws hws)

/-- Two texts with words between them. -/
theorem between (h : LexesApart text xs) (ws : List String) (words : String)
    (hwords : words = " " ++ spaced ws) (hws : ws.all isWord) (h' : LexesApart text' ys) :
    LexesApart (text ++ words ++ text') (xs ++ (ws.map .ofWord ++ ys)) := by
  rw [hwords, ← String.append_assoc, String.append_assoc]
  exact h.space (h'.behind ws hws)

end LexesApart

/-! ### Alterations -/

/-- What is altered in a column. -/
inductive ColumnAlteration where
  /-- It gets another type. What becomes of its values may be said by an expression. -/
  | type (type : DataType) (conversion : Option Expression)
  /-- Null values are ruled out, or ruled in. -/
  | notNull (notNull : Bool)
  /-- It gets another default value, or none. -/
  | default (value : Option Expression)

/-- What is altered in a table. -/
inductive TableAlteration where
  /-- A column is added. -/
  | addColumn (definition : ColumnDefinition)
  /-- A column is dropped. -/
  | dropColumn (column : Identifier)
  /-- A column is altered. -/
  | alterColumn (column : Identifier) (alteration : ColumnAlteration)
  /-- A constraint is dropped. -/
  | dropConstraint (constraint : Identifier)

/-- A statement that alters or drops what is there. -/
inductive AlteringStatement where
  /-- A table is dropped. -/
  | dropTable (table : QualifiedName)
  /-- An index is dropped. It is named without the table. -/
  | dropIndex (index : Identifier)
  /-- A table is altered, `only` it or with those that inherit from it. -/
  | alterTable (only : Bool) (table : QualifiedName) (alteration : TableAlteration)

/-! ### What alterations are written as -/

/-- The symbol of a word that is no keyword of the language. -/
def Symbol.plain (w : String) : Symbol := ⟨.identifier, w⟩

/-- The symbols of what is altered in a column. -/
def ColumnAlteration.symbols : ColumnAlteration → List Symbol
  | type t conversion => .plain "TYPE" ::
      (t.symbols ++ conversion.toList.flatMap fun e => .word .USING :: e.symbols)
  | notNull true => [.word .SET, .word .NOT, .word .NULL]
  | notNull false => [.plain "DROP", .word .NOT, .word .NULL]
  | default (some value) => .word .SET :: .word .DEFAULT :: value.symbols
  | default none => [.plain "DROP", .word .DEFAULT]

/-- The symbols of what is altered in a table. -/
def TableAlteration.symbols : TableAlteration → List Symbol
  | addColumn definition => .word .ADD :: .word .COLUMN :: definition.symbols
  | dropColumn column => [.plain "DROP", .word .COLUMN, .name column]
  | alterColumn column a => .word .ALTER :: .word .COLUMN :: .name column :: a.symbols
  | dropConstraint constraint => [.plain "DROP", .word .CONSTRAINT, .name constraint]

/-- The symbols of an altering statement. The semicolon behind it is not among them. -/
def AlteringStatement.symbols : AlteringStatement → List Symbol
  | dropTable table => .plain "DROP" :: .word .TABLE :: table.toObjectName.symbols
  | dropIndex index => [.plain "DROP", .word .INDEX, .name index]
  | alterTable only table a => .word .ALTER :: .word .TABLE ::
      ((if only then [.word .ONLY] else []) ++ table.toObjectName.symbols ++ a.symbols)

/-- An alteration whose type and expressions can be read back. -/
def ColumnAlteration.Readable : ColumnAlteration → Prop
  | type t conversion => t.IsReadable ∧ ∀ e ∈ conversion, e.Readable Symbol.Survives
  | notNull _ => True
  | default value => ∀ e ∈ value, e.Readable Symbol.Survives

/-- An alteration whose types and expressions can be read back, and in which all conditions have a
text. -/
def TableAlteration.Readable : TableAlteration → Prop
  | addColumn definition =>
    definition.Readable Symbol.Survives ∧ definition.withoutNulls = definition
  | alterColumn _ a => a.Readable
  | _ => True

/-- An altering statement that can be read back. -/
def AlteringStatement.Readable : AlteringStatement → Prop
  | alterTable _ _ a => a.Readable
  | _ => True

/-! ### What alterations do -/

/-- What is seen of a column that is altered. What becomes of its values is not seen. -/
def ColumnAlteration.effect : ColumnAlteration → ColumnView → ColumnView
  | type t _, c => { c with type := t.sql }
  | notNull b, c => { c with notNull := b }
  | default value, c => { c with default := value.map Expression.sql }

/-- What is seen of a table that is altered. A default value that is altered in `only` one table is
kept apart from the definition of the column. -/
def TableAlteration.effect (only : Bool) : TableAlteration → TableView → TableView
  | addColumn definition =>
    .editColumn definition.name fun _ => some (Column.ofDefinition definition).view
  | dropColumn column => .editColumn column fun _ => none
  | alterColumn column (.default value) =>
    if only then .setDefault column value.isSome
    else .editColumn column (Option.map (ColumnAlteration.default value).effect)
  | alterColumn column a => .editColumn column (Option.map a.effect)
  | dropConstraint constraint => .setConstraint constraint false

/-- What an altering statement does to what is seen of its table. -/
def AlteringStatement.effect : AlteringStatement → Option TableView → Option TableView
  | dropTable _, _ => none
  | dropIndex index, t => t.map (.setIndex index false)
  | alterTable only _ a, t => t.map (a.effect only)

/-! ### Steps that alter -/

/-- The values of a column, cast to a type. -/
def Change.conversion (column : Identifier) (t : DataType) : Expression :=
  .binary (.identifier column) .typecast (.type t)

/-- The definition of a column that is added. The default value comes before the condition on nulls. -/
def Change.addedDefinition (name : Identifier) (t : DataType) (default : Option Expression)
    (notNull : Bool) : ColumnDefinition :=
  ⟨name, t, default.toList.map .default ++ if notNull then [.notNull] else []⟩

/-- A step of a patch is worded as an altering statement. It keeps types and expressions as texts. -/
inductive Step.Alters : Step → AlteringStatement → Prop where
  /-- A table is dropped. -/
  | dropTable (table : QualifiedName) : Alters ⟨table, .dropTable⟩ (.dropTable table)
  /-- An index is dropped. -/
  | dropIndex (table : QualifiedName) (index : Identifier) :
      Alters ⟨table, .dropIndex index⟩ (.dropIndex index)
  /-- A column is added, to which no sequence is attached yet. -/
  | addColumn (table : QualifiedName) (name : Identifier) (t : DataType)
      (default : Option Expression) (notNull : Bool) (sequence : Option Identifier) :
      Alters ⟨table, .addColumn ⟨name, t.sql, notNull, default.map Expression.sql, sequence⟩⟩
        (.alterTable false table (.addColumn (Change.addedDefinition name t default notNull)))
  /-- A column is dropped. -/
  | dropColumn (table : QualifiedName) (column : Identifier) :
      Alters ⟨table, .dropColumn column⟩ (.alterTable false table (.dropColumn column))
  /-- A column gets another type, and its values are cast to it if they have to be. -/
  | setType (table : QualifiedName) (column : Identifier) (t : DataType) (cast : Bool) :
      Alters ⟨table, .setType column t.sql cast⟩ (.alterTable false table
        (.alterColumn column (.type t (if cast then some (Change.conversion column t) else none))))
  /-- Null values are ruled out, or ruled in. -/
  | setNotNull (table : QualifiedName) (column : Identifier) (notNull : Bool) :
      Alters ⟨table, .setNotNull column notNull⟩
        (.alterTable false table (.alterColumn column (.notNull notNull)))
  /-- A column gets another default value in its definition, or none. -/
  | setInlineDefault (table : QualifiedName) (column : Identifier) (value : Option Expression) :
      Alters ⟨table, .setInlineDefault column (value.map Expression.sql)⟩
        (.alterTable false table (.alterColumn column (.default value)))
  /-- An explicit default is dropped. -/
  | dropDefault (table : QualifiedName) (column : Identifier) :
      Alters ⟨table, .dropDefault column⟩
        (.alterTable true table (.alterColumn column (.default none)))
  /-- A constraint is dropped. -/
  | dropConstraint (table : QualifiedName) (constraint : Identifier) :
      Alters ⟨table, .dropConstraint constraint⟩
        (.alterTable true table (.dropConstraint constraint))

namespace Change

theorem conversion_sql (column : Identifier) (t : DataType) :
    (conversion column t).sql = column.sql ++ "::" ++ t.sql := by
  simp [conversion, Expression.sql, Expression.separator, Expression.leadsWithMinus, BinaryOp.sql]

theorem readable_conversion (column : Identifier) {t : DataType} (ht : t.IsReadable) :
    (conversion column t).Readable Symbol.Survives :=
  ⟨.cast (.identifier column) ((Expression.Nested.identifier column).typecast_le_strength rfl) ht,
    .binary (.identifier column) (.type t)⟩

theorem addedColumnSql_eq (name : Identifier) (t : DataType) (default : Option Expression)
    (notNull : Bool) (sequence : Option Identifier) :
    addedColumnSql ⟨name, t.sql, notNull, default.map Expression.sql, sequence⟩ =
      "ADD COLUMN " ++ (addedDefinition name t default notNull).sql := by
  have hdefault : ∀ value : String, " DEFAULT " ++ value = " " ++ ("DEFAULT " ++ value) := by
    intro value
    rw [← String.append_assoc]
    rfl
  cases default <;> cases notNull <;>
    simp [addedColumnSql, addedDefinition, ColumnDefinition.sql, ColumnDefinition.constraintsSql,
      ColumnConstraint.sql, hdefault, String.append_assoc]

theorem view_addedDefinition (name : Identifier) (t : DataType) (default : Option Expression)
    (notNull : Bool) (sequence : Option Identifier) :
    (Column.ofDefinition (addedDefinition name t default notNull)).view =
      Column.view ⟨name, t.sql, notNull, default.map Expression.sql, sequence⟩ := by
  cases default <;> cases notNull <;> rfl

end Change

/-! ### The texts of steps that alter -/

namespace Change

variable {table : QualifiedName} {action : String} {xs : List Symbol}

theorem lexes_alterTable (h : LexesApart action xs) : LexesTo (alterTable table action)
    (.word .ALTER :: .word .TABLE :: (table.toObjectName.symbols ++ xs) ++ [.semicolon]) :=
  (((LexesApart.qualifiedName table).behind ["ALTER", "TABLE"] rfl).space h).semicolon

theorem lexes_alterOnly (h : LexesApart action xs) : LexesTo (alterOnly table action)
    (.word .ALTER :: .word .TABLE :: .word .ONLY :: (table.toObjectName.symbols ++ xs) ++
      [.semicolon]) :=
  (((LexesApart.qualifiedName table).behind ["ALTER", "TABLE", "ONLY"] rfl).space h).semicolon

theorem lexes_alterColumn (column : Identifier) : LexesApart ("ALTER COLUMN " ++ column.sql)
    [.word .ALTER, .word .COLUMN, .name column] :=
  (LexesApart.name column).behind ["ALTER", "COLUMN"] rfl

theorem lexes_defaultSql (column : Identifier) {value : Option Expression}
    (h : ∀ e ∈ value, e.Readable Symbol.Survives) :
    LexesApart (defaultSql column (value.map Expression.sql))
      (TableAlteration.alterColumn column (.default value)).symbols := by
  cases value with
  | none => exact (lexes_alterColumn column).before ["DROP"] "DEFAULT" rfl rfl rfl
  | some e =>
    have hvalue := LexesApart.expression (h e rfl)
    exact (lexes_alterColumn column).between ["SET", "DEFAULT"] " SET DEFAULT " rfl rfl hvalue

theorem lexes_setType (column : Identifier) {t : DataType} (ht : t.IsReadable) (cast : Bool) :
    LexesApart ("ALTER COLUMN " ++ column.sql ++ " TYPE " ++ t.sql ++
        (if cast then " USING " ++ column.sql ++ "::" ++ t.sql else ""))
      (TableAlteration.alterColumn column
        (.type t (if cast then some (conversion column t) else none))).symbols := by
  have htype := (lexes_alterColumn column).between ["TYPE"] " TYPE " rfl rfl (.dataType t)
  cases cast with
  | false =>
    have hword : Symbol.ofWord "TYPE" = .plain "TYPE" := rfl
    simpa [TableAlteration.symbols, ColumnAlteration.symbols, hword] using htype
  | true =>
    have husing := htype.between ["USING"] " USING " rfl rfl
      (.expression (readable_conversion column ht))
    have hword : Symbol.ofWord "TYPE" = .plain "TYPE" := rfl
    have hword' : Symbol.ofWord "USING" = .word .USING := rfl
    rw [conversion_sql] at husing
    simpa [TableAlteration.symbols, ColumnAlteration.symbols, hword, hword', String.append_assoc]
      using husing

theorem lexes_setNotNull (column : Identifier) (notNull : Bool) :
    LexesApart
      ("ALTER COLUMN " ++ column.sql ++ (if notNull then " SET" else " DROP") ++ " NOT NULL")
      (TableAlteration.alterColumn column (.notNull notNull)).symbols := by
  have hcolumn := lexes_alterColumn column
  cases notNull with
  | false => exact (hcolumn.before [] "DROP" rfl rfl rfl).before ["NOT"] "NULL" rfl rfl rfl
  | true => exact (hcolumn.before [] "SET" rfl rfl rfl).before ["NOT"] "NULL" rfl rfl rfl

theorem lexes_addColumn {d : ColumnDefinition} (hd : d.Readable Symbol.Survives) :
    LexesApart ("ADD COLUMN " ++ d.sql) (TableAlteration.addColumn d).symbols :=
  (LexesApart.definition hd).behind ["ADD", "COLUMN"] rfl

end Change

namespace Step.Alters

variable {x : Step} {a : AlteringStatement}

/-- **The text of a step is lexed to the symbols of the altering statement** that it is worded as, and
a semicolon. -/
theorem lexes (h : x.Alters a) (ha : a.Readable) :
    LexesTo (x.change.sql x.table) (a.symbols ++ [.semicolon]) := by
  cases h with
  | dropTable table =>
    exact ((LexesApart.qualifiedName table).behind ["DROP", "TABLE"] rfl).semicolon
  | dropIndex table index => exact ((LexesApart.name index).behind ["DROP", "INDEX"] rfl).semicolon
  | addColumn table name t default notNull sequence =>
    have haction := Change.lexes_addColumn ha.1
    rw [← Change.addedColumnSql_eq name t default notNull sequence] at haction
    exact Change.lexes_alterTable haction
  | dropColumn table column =>
    exact Change.lexes_alterTable ((LexesApart.name column).behind ["DROP", "COLUMN"] rfl)
  | setType table column t cast =>
    exact Change.lexes_alterTable (Change.lexes_setType column ha.1 cast)
  | setNotNull table column notNull =>
    exact Change.lexes_alterTable (Change.lexes_setNotNull column notNull)
  | setInlineDefault table column value =>
    exact Change.lexes_alterTable (Change.lexes_defaultSql column ha)
  | dropDefault table column =>
    have hnone : ∀ e ∈ (none : Option Expression), e.Readable Symbol.Survives := by simp
    have haction := Change.lexes_defaultSql column hnone
    exact Change.lexes_alterOnly haction
  | dropConstraint table constraint =>
    exact Change.lexes_alterOnly ((LexesApart.name constraint).behind ["DROP", "CONSTRAINT"] rfl)

/-- **An altering statement does what the step does** that is worded as it. -/
theorem effect_eq (h : x.Alters a) : a.effect = x.change.effect := by
  funext t
  cases h with
  | addColumn table name type default notNull sequence =>
    show t.map (TableView.editColumn name fun _ => some (Column.ofDefinition _).view) = _
    rw [Change.view_addedDefinition name type default notNull sequence]
    rfl
  | _ => rfl

end Step.Alters

/-! ### Alterations are told apart -/

theorem Symbol.name_inj {m n : Identifier} (h : name m = name n) : m = n :=
  Identifier.sql_injective (Symbol.mk.inj h).2

/-- Expressions that can be read back are told apart by their symbols. -/
theorem Expression.symbols_inj {e f : Expression} (he : e.Readable Symbol.Survives)
    (hf : f.Readable Symbol.Survives) (h : e.symbols = f.symbols) : e = f :=
  (Rule.Reads.expression he.nested).unique (h ▸ Rule.Reads.expression hf.nested)

namespace ColumnAlteration

variable {a b : ColumnAlteration}

/-- What may be said of the values of a column does not go on with a type. -/
theorem follows_conversion (t : DataType) (conversion : Option Expression) :
    Follows t.admits ((conversion.toList.flatMap fun e => Symbol.word .USING :: e.symbols).map
      Symbol.token) := by
  cases conversion with
  | none => exact follows_nil _
  | some e => exact follows_cons.2 (t.admits_of_isQuiet (.keyword .USING) rfl)

theorem symbols_inj (ha : a.Readable) (hb : b.Readable) (h : a.symbols = b.symbols) : a = b := by
  cases a with
  | type t conversion =>
    cases b with
    | type u conversion' =>
      obtain ⟨ht, hconversion⟩ := ha
      obtain ⟨hu, hconversion'⟩ := hb
      obtain ⟨rfl, hrest⟩ := (Rule.Reads.dataType ht).unique_append (Rule.Reads.dataType hu)
        (follows_conversion t conversion) (follows_conversion u conversion') (List.cons.inj h).2
      cases conversion <;> cases conversion' <;> simp at hrest
      · rfl
      · rw [Expression.symbols_inj (hconversion _ rfl) (hconversion' _ rfl) hrest]
    | notNull d => cases d <;> simp [symbols, Symbol.plain, Symbol.word] at h
    | default w => cases w <;> simp [symbols, Symbol.plain, Symbol.word] at h
  | notNull c =>
    cases b with
    | type u conversion' => cases c <;> simp [symbols, Symbol.plain, Symbol.word] at h
    | notNull d => cases c <;> cases d <;> simp [symbols, Symbol.plain, Symbol.word] at h <;> rfl
    | default w => cases c <;> cases w <;> simp [symbols, Symbol.plain, Symbol.word] at h
  | default v =>
    cases b with
    | type u conversion' => cases v <;> simp [symbols, Symbol.plain, Symbol.word] at h
    | notNull d => cases v <;> cases d <;> simp [symbols, Symbol.plain, Symbol.word] at h
    | default w =>
      cases v <;> cases w <;> simp [symbols, Symbol.plain, Symbol.word] at h
      · rfl
      · rw [Expression.symbols_inj (ha _ rfl) (hb _ rfl) h]

end ColumnAlteration

namespace TableAlteration

variable {a b : TableAlteration}

theorem symbols_inj (ha : a.Readable) (hb : b.Readable) (h : a.symbols = b.symbols) : a = b := by
  cases a with
  | addColumn d =>
    cases b with
    | addColumn d' =>
      have hread := Rule.Reads.columnDefinition ha.1
      have hread' := Rule.Reads.columnDefinition hb.1
      simp only [symbols, List.cons.injEq, true_and] at h
      rw [h, ha.2] at hread
      rw [hb.2] at hread'
      rw [hread.unique hread']
    | _ => simp [symbols, Symbol.plain, Symbol.word] at h
  | dropColumn c =>
    cases b with
    | dropColumn c' =>
      simp only [symbols, List.cons.injEq, true_and, and_true] at h
      rw [Symbol.name_inj h]
    | _ => simp [symbols, Symbol.plain, Symbol.word] at h
  | alterColumn c x =>
    cases b with
    | alterColumn c' y =>
      simp only [symbols, List.cons.injEq, true_and] at h
      rw [Symbol.name_inj h.1, ColumnAlteration.symbols_inj ha hb h.2]
    | _ => simp [symbols, Symbol.plain, Symbol.word] at h
  | dropConstraint c =>
    cases b with
    | dropConstraint c' =>
      simp only [symbols, List.cons.injEq, true_and, and_true] at h
      rw [Symbol.name_inj h]
    | _ => simp [symbols, Symbol.plain, Symbol.word] at h

end TableAlteration

/-- The symbols of a qualified name with others behind it. -/
theorem QualifiedName.symbols_append_inj {m n : QualifiedName} {xs ys : List Symbol}
    (h : m.toObjectName.symbols ++ xs = n.toObjectName.symbols ++ ys) : m = n ∧ xs = ys := by
  obtain ⟨schema, name⟩ := m
  obtain ⟨schema', name'⟩ := n
  simp only [toObjectName, ObjectName.symbols, List.cons_append, List.nil_append, List.cons.injEq,
    true_and] at h
  rw [Symbol.name_inj h.1, Symbol.name_inj h.2.1]
  exact ⟨rfl, h.2.2⟩

/-- **Altering statements are told apart by their symbols** if they can be read back. -/
theorem AlteringStatement.symbols_inj {a b : AlteringStatement} (ha : a.Readable) (hb : b.Readable)
    (h : a.symbols = b.symbols) : a = b := by
  cases a with
  | dropTable table =>
    cases b with
    | dropTable table' =>
      simp only [symbols, List.cons.injEq, true_and] at h
      rw [(QualifiedName.symbols_append_inj (congrArg (· ++ []) h)).1]
    | _ => simp [symbols, Symbol.plain, Symbol.word] at h
  | dropIndex index =>
    cases b with
    | dropIndex index' =>
      simp only [symbols, List.cons.injEq, true_and, and_true] at h
      rw [Symbol.name_inj h]
    | _ => simp [symbols, Symbol.plain, Symbol.word] at h
  | alterTable only table x =>
    cases b with
    | alterTable only' table' y =>
      have honly : only = only' := by
        cases only <;> cases only' <;> simp [symbols, Symbol.word, QualifiedName.toObjectName,
          ObjectName.symbols, Symbol.name] at h ⊢
      subst honly
      simp only [symbols, List.cons.injEq, true_and, List.append_assoc,
        List.append_cancel_left_eq] at h
      obtain ⟨rfl, haction⟩ := QualifiedName.symbols_append_inj h
      rw [TableAlteration.symbols_inj ha hb haction]
    | _ => simp [symbols, Symbol.plain, Symbol.word] at h

/-- **What an altering step does can be told from its text**: steps of the same text are worded as
the same statement and have the same effect. -/
theorem Step.Alters.of_sql_eq {x y : Step} {a b : AlteringStatement} (hx : x.Alters a)
    (hy : y.Alters b) (ha : a.Readable) (hb : b.Readable)
    (h : x.change.sql x.table = y.change.sql y.table) : a = b ∧ x.change.effect = y.change.effect := by
  have hsymbols : a.symbols ++ [.semicolon] = b.symbols ++ [.semicolon] := by
    rw [← (hx.lexes ha).symbols_eq, ← (hy.lexes hb).symbols_eq, h]
  have hsame : a = b := AlteringStatement.symbols_inj ha hb (List.append_cancel_right hsymbols)
  exact ⟨hsame, by rw [← hx.effect_eq, ← hy.effect_eq, hsame]⟩

end SchemaPatch
