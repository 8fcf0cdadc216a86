import SchemaPatch.Proofs.Sql.Lexing

/-!
# Statements lex to their symbols

The canonical text of a statement whose strings and numbers stand lexes to the symbols of the
statement and a semicolon, whatever follows it (`Statement.symbols_sql`).
-/

namespace SchemaPatch

variable {rest : List Char}

/-- The symbol that ends a statement. -/
def Symbol.semicolon : Symbol := ⟨.semicolon, ";"⟩

/-- The symbols of statements, with a semicolon behind each. -/
def Statement.symbolsAll (l : List Statement) : List Symbol :=
  l.flatMap fun s => s.symbols ++ [Symbol.semicolon]

/-! ### Names and optional words -/

/-- A name lexes to its symbols. -/
theorem ObjectName.symbols_sql (n : ObjectName) (h : rest.head? ≠ some '"') :
    SchemaPatch.symbols (n.sql.toList ++ rest) = n.symbols ++ SchemaPatch.symbols rest := by
  obtain ⟨schema, name⟩ := n
  cases schema with
  | none => exact symbols_name name h
  | some schema =>
    have htext : (ObjectName.mk (some schema) name).sql.toList ++ rest =
        schema.sql.toList ++ '.' :: (name.sql.toList ++ rest) := by
      simp [sql]
    have hdigit : (name.sql.toList ++ rest).head?.any Char.isDigit = false := by
      simp [Identifier.sql_toList, Quoted.quote]
    rw [htext, symbols_name schema (by simp), symbols_dot hdigit, symbols_name name h]
    rfl

/-- Words that may be left out. -/
theorem symbols_optional (b : Bool) (ks : List Keyword) (rest : List Char) :
    symbols ((if b then Keyword.phrase ks else "").toList ++ rest) =
      (if b then ks.map Symbol.word else []) ++ symbols rest := by
  cases b with
  | false => rfl
  | true => exact symbols_phrase ks rest

/-! ### Tables -/

/-- A condition with a text lexes to its symbols. -/
theorem ColumnConstraint.symbols_sql {k : ColumnConstraint} (hk : k.Readable Symbol.Survives)
    (h : Apart rest) :
    SchemaPatch.symbols (k.sql.toList ++ rest) = k.symbols ++ SchemaPatch.symbols rest := by
  cases k with
  | notNull =>
    have htext : notNull.sql.toList ++ rest =
        Keyword.NOT.word.toList ++ ' ' :: (Keyword.NULL.word.toList ++ rest) := rfl
    rw [htext, symbols_keyword .NOT (by simp), symbols_space, symbols_keyword .NULL h]
    rfl
  | null => rfl
  | default value =>
    have htext : (default value).sql.toList ++ rest =
        (Keyword.phrase [.DEFAULT]).toList ++ (value.sql.toList ++ rest) := by
      rw [sql, show "DEFAULT " = Keyword.phrase [.DEFAULT] from rfl]
      simp
    rw [htext, symbols_phrase, Expression.symbols_sql hk.spelled h]
    rfl

namespace ColumnDefinition

theorem constraintsSql_cons (k : ColumnConstraint) (ks : List ColumnConstraint) :
    constraintsSql (k :: ks) = (if k = .null then "" else " " ++ k.sql) ++ constraintsSql ks := by
  cases k <;> simp [constraintsSql]

theorem apart_constraintsSql (ks : List ColumnConstraint) (h : Apart rest) :
    Apart ((constraintsSql ks).toList ++ rest) := by
  induction ks with
  | nil => exact h
  | cons k ks ih =>
    rw [constraintsSql_cons]
    split
    · simpa using ih
    · simp

theorem symbols_constraintsSql {ks : List ColumnConstraint}
    (hks : ∀ k ∈ ks, k.Readable Symbol.Survives) (h : Apart rest) :
    SchemaPatch.symbols ((constraintsSql ks).toList ++ rest) =
      ks.flatMap ColumnConstraint.symbols ++ SchemaPatch.symbols rest := by
  induction ks with
  | nil => rfl
  | cons k ks ih =>
    obtain ⟨hk, hks⟩ := List.forall_mem_cons.1 hks
    rw [constraintsSql_cons, List.flatMap_cons]
    split
    · next hnull =>
      rw [String.empty_append, ih hks, hnull]
      rfl
    · have htext : (" " ++ k.sql ++ constraintsSql ks).toList ++ rest =
          ' ' :: (k.sql.toList ++ ((constraintsSql ks).toList ++ rest)) := by simp
      rw [htext, symbols_space, ColumnConstraint.symbols_sql hk (apart_constraintsSql ks h), ih hks,
        List.append_assoc]

/-- The definition of a column lexes to its symbols. -/
theorem symbols_sql {c : ColumnDefinition} (hc : c.Readable Symbol.Survives) (h : Apart rest) :
    SchemaPatch.symbols (c.sql.toList ++ rest) = c.symbols ++ SchemaPatch.symbols rest := by
  have htext : c.sql.toList ++ rest = c.name.sql.toList ++
      ' ' :: (c.type.sql.toList ++ ((constraintsSql c.constraints).toList ++ rest)) := by
    simp [sql]
  rw [htext, symbols_name c.name (by simp), symbols_space,
    c.type.symbols_sql (apart_constraintsSql _ h), symbols_constraintsSql hc.constraints h]
  simp [symbols]

end ColumnDefinition

namespace CreateTable

theorem symbols_columnsSql {cs : List ColumnDefinition}
    (hcs : ∀ c ∈ cs, c.Readable Symbol.Survives) (rest : List Char) :
    SchemaPatch.symbols ((columnsSql cs).toList ++ rest) =
      Symbol.listed (cs.map ColumnDefinition.symbols) ++ SchemaPatch.symbols rest := by
  have hindent : ∀ cs, SchemaPatch.symbols ("    ".toList ++ cs) = SchemaPatch.symbols cs := by
    intro cs
    show SchemaPatch.symbols (' ' :: ' ' :: ' ' :: ' ' :: cs) = _
    simp only [symbols_space]
  induction cs with
  | nil => rfl
  | cons c cs ih =>
    obtain ⟨hc, hcs⟩ := List.forall_mem_cons.1 hcs
    cases cs with
    | nil =>
      have htext : (columnsSql [c]).toList ++ rest =
          "    ".toList ++ (c.sql.toList ++ '\n' :: rest) := by simp [columnsSql]
      rw [htext, hindent, ColumnDefinition.symbols_sql hc (by simp), symbols_lineFeed]
      rfl
    | cons d cs =>
      have htext : (columnsSql (c :: d :: cs)).toList ++ rest = "    ".toList ++
          (c.sql.toList ++ ',' :: '\n' :: ((columnsSql (d :: cs)).toList ++ rest)) := by
        simp [columnsSql]
      rw [htext, hindent, ColumnDefinition.symbols_sql hc (by simp), symbols_comma,
        symbols_lineFeed, ih hcs]
      simp [Symbol.listed]

theorem symbols_sql {s : CreateTable} (hs : s.Readable Symbol.Survives) :
    SchemaPatch.symbols (s.sql.toList ++ rest) =
      s.symbols ++ Symbol.semicolon :: SchemaPatch.symbols rest := by
  have htext : s.sql.toList ++ rest = (Keyword.phrase [.CREATE, .TABLE]).toList ++
      (s.table.sql.toList ++ ' ' :: '(' :: '\n' :: ((columnsSql s.columns).toList ++
        ')' :: ';' :: rest)) := by
    delta sql
    simp [Keyword.phrase, Keyword.word]
  rw [htext, symbols_phrase, s.table.symbols_sql (by simp), symbols_space, symbols_leftParen,
    symbols_lineFeed, symbols_columnsSql hs, symbols_rightParen, symbols_semicolon]
  simp [symbols, Symbol.parenthesized, Symbol.semicolon]

end CreateTable

/-! ### Indexes -/

theorem IndexTarget.symbols_sql {t : IndexTarget} (ht : t.Readable Symbol.Survives) (h : Apart rest) :
    SchemaPatch.symbols (t.sql.toList ++ rest) = t.symbols ++ SchemaPatch.symbols rest := by
  obtain ⟨key, descending⟩ := t
  cases descending with
  | false =>
    have htext : (IndexTarget.mk key false).sql.toList ++ rest = key.sql.toList ++ rest := by
      simp [sql]
    rw [htext, Expression.symbols_sql ht.readable.spelled h]
    simp [symbols]
  | true =>
    have htext : (IndexTarget.mk key true).sql.toList ++ rest =
        key.sql.toList ++ ' ' :: (Keyword.DESC.word.toList ++ rest) := by
      rw [sql, if_pos rfl, show " DESC" = " " ++ Keyword.DESC.word from rfl]
      simp
    rw [htext, Expression.symbols_sql ht.readable.spelled (by simp), symbols_space,
      symbols_keyword .DESC h]
    simp [symbols]

namespace CreateIndex

theorem symbols_name (name : Option Identifier) (rest : List Char) :
    SchemaPatch.symbols ((match name with
      | some name => name.sql ++ " "
      | none => "").toList ++ rest) = name.toList.map .name ++ SchemaPatch.symbols rest := by
  cases name with
  | none => rfl
  | some name =>
    have htext : (name.sql ++ " ").toList ++ rest = name.sql.toList ++ ' ' :: rest := by simp
    show SchemaPatch.symbols ((name.sql ++ " ").toList ++ rest) = _
    rw [htext, SchemaPatch.symbols_name name (by simp), symbols_space]
    rfl

theorem symbols_method (method : Option Identifier) (h : Apart rest) :
    SchemaPatch.symbols ((match method with
      | some method => " USING " ++ method.sql
      | none => "").toList ++ rest) =
      (method.toList.flatMap fun method => [.word .USING, .name method]) ++
        SchemaPatch.symbols rest := by
  cases method with
  | none => rfl
  | some method =>
    have htext : (" USING " ++ method.sql).toList ++ rest =
        ' ' :: ((Keyword.phrase [.USING]).toList ++ (method.sql.toList ++ rest)) := by
      rw [show " USING " = " " ++ Keyword.phrase [.USING] from rfl]
      simp
    show SchemaPatch.symbols ((" USING " ++ method.sql).toList ++ rest) = _
    rw [htext, symbols_space, symbols_phrase,
      SchemaPatch.symbols_name method (h.head?_ne (by decide))]
    rfl

theorem symbols_sql {s : CreateIndex} (hs : s.Readable Symbol.Survives) :
    SchemaPatch.symbols (s.sql.toList ++ rest) =
      s.symbols ++ Symbol.semicolon :: SchemaPatch.symbols rest := by
  obtain ⟨unique, concurrently, ifNotExists, name, table, method, targets⟩ := s
  have htext : (CreateIndex.mk unique concurrently ifNotExists name table method
      targets).sql.toList ++ rest = (Keyword.phrase [.CREATE]).toList ++
      ((if unique then Keyword.phrase [.UNIQUE] else "").toList ++ ((Keyword.phrase [.INDEX]).toList ++
      ((if concurrently then Keyword.phrase [.CONCURRENTLY] else "").toList ++
      ((if ifNotExists then Keyword.phrase [.IF, .NOT, .EXISTS] else "").toList ++
      ((match name with
        | some name => name.sql ++ " "
        | none => "").toList ++ ((Keyword.phrase [.ON]).toList ++ (table.sql.toList ++
      ((match method with
        | some method => " USING " ++ method.sql
        | none => "").toList ++ ' ' :: '(' ::
      ((SchemaPatch.listed (targets.map IndexTarget.sql)).toList ++ ')' :: ';' :: rest))))))))) := by
    have hcreate : "CREATE " = Keyword.phrase [.CREATE] := rfl
    have hunique : "UNIQUE " = Keyword.phrase [.UNIQUE] := rfl
    have hindex : "INDEX " = Keyword.phrase [.INDEX] := rfl
    have hconcurrently : "CONCURRENTLY " = Keyword.phrase [.CONCURRENTLY] := rfl
    have hexists : "IF NOT EXISTS " = Keyword.phrase [.IF, .NOT, .EXISTS] := rfl
    have hon : "ON " = Keyword.phrase [.ON] := rfl
    delta sql
    simp only [hcreate, hunique, hindex, hconcurrently, hexists, hon, String.toList_append,
      List.append_assoc]
    rfl
  have happart : (((match method with
      | some method => " USING " ++ method.sql
      | none => "").toList ++ ' ' :: '(' ::
      ((SchemaPatch.listed (targets.map IndexTarget.sql)).toList ++ ')' :: ';' :: rest))).head? ≠
        some '"' := by
    cases method <;> simp
  rw [htext, symbols_phrase, symbols_optional, symbols_phrase, symbols_optional, symbols_optional,
    symbols_name, symbols_phrase, table.symbols_sql happart, symbols_method method (by simp),
    symbols_space, symbols_leftParen, symbols_listed (fun t ht _ h =>
      IndexTarget.symbols_sql (hs.targets t ht) h) (by simp), symbols_rightParen, symbols_semicolon]
  simp [symbols, Symbol.parenthesized, Symbol.semicolon]

end CreateIndex

/-! ### Sequences -/

namespace CreateSequence

/-- An option on a line of its own lexes to its words and its value. -/
theorem symbols_optionSql {α : Type} {sql : α → String} {spelled : α → List Symbol} (o : Option α)
    (ks : List Keyword) (hspelled : ∀ a, SchemaPatch.symbols ((sql a).toList ++ rest) =
      spelled a ++ SchemaPatch.symbols rest) :
    SchemaPatch.symbols ((optionSql (Keyword.phrase ks) (o.map sql)).toList ++ rest) =
      (o.toList.flatMap fun a => ks.map Symbol.word ++ spelled a) ++ SchemaPatch.symbols rest := by
  cases o with
  | none => rfl
  | some a =>
    have htext : (optionSql (Keyword.phrase ks) ((some a).map sql)).toList ++ rest =
        '\n' :: ' ' :: ' ' :: ' ' :: ' ' ::
          ((Keyword.phrase ks).toList ++ ((sql a).toList ++ rest)) := by
      simp [optionSql]
    rw [htext, symbols_lineFeed]
    simp only [symbols_space]
    rw [symbols_phrase, hspelled]
    simp

/-- An option without a value. -/
theorem symbols_flag (b : Bool) (k : Keyword) (h : Apart rest) :
    SchemaPatch.symbols ((if b then "\n    NO " ++ k.word else "").toList ++ rest) =
      (if b then [.word .NO, .word k] else []) ++ SchemaPatch.symbols rest := by
  cases b with
  | false => rfl
  | true =>
    have htext : ("\n    NO " ++ k.word).toList ++ rest = '\n' :: ' ' :: ' ' :: ' ' :: ' ' ::
        ((Keyword.phrase [.NO]).toList ++ (k.word.toList ++ rest)) := by
      rw [show "\n    NO " = "\n    " ++ Keyword.phrase [.NO] from rfl]
      simp
    rw [if_pos rfl, htext, symbols_lineFeed]
    simp only [symbols_space]
    rw [symbols_phrase, symbols_keyword k h]
    rfl

theorem apart_optionSql (words : String) (o : Option String) (h : Apart rest) :
    Apart ((optionSql words o).toList ++ rest) := by
  cases o with
  | none => exact h
  | some value => simp [optionSql]

theorem apart_flag (b : Bool) (k : Keyword) (h : Apart rest) :
    Apart ((if b then "\n    NO " ++ k.word else "").toList ++ rest) := by
  cases b with
  | false => exact h
  | true => simp

theorem symbols_sql (s : CreateSequence) :
    SchemaPatch.symbols (s.sql.toList ++ rest) =
      s.symbols ++ Symbol.semicolon :: SchemaPatch.symbols rest := by
  have htext : s.sql.toList ++ rest = (Keyword.phrase [.CREATE, .SEQUENCE]).toList ++
      (s.name.sql.toList ++
      ((optionSql (Keyword.phrase [.AS]) (s.type.map DataType.sql)).toList ++
      ((optionSql (Keyword.phrase [.START, .WITH]) (s.start.map integerSql)).toList ++
      ((optionSql (Keyword.phrase [.INCREMENT, .BY]) (s.increment.map integerSql)).toList ++
      ((if s.noMinvalue then "\n    NO " ++ Keyword.MINVALUE.word else "").toList ++
      ((if s.noMaxvalue then "\n    NO " ++ Keyword.MAXVALUE.word else "").toList ++
      ((optionSql (Keyword.phrase [.CACHE]) (s.cache.map integerSql)).toList ++
        ';' :: rest))))))) := by
    have hcreate : "CREATE SEQUENCE " = Keyword.phrase [.CREATE, .SEQUENCE] := rfl
    have has : "AS " = Keyword.phrase [.AS] := rfl
    have hstart : "START WITH " = Keyword.phrase [.START, .WITH] := rfl
    have hincrement : "INCREMENT BY " = Keyword.phrase [.INCREMENT, .BY] := rfl
    have hmin : "\n    NO MINVALUE" = "\n    NO " ++ Keyword.MINVALUE.word := rfl
    have hmax : "\n    NO MAXVALUE" = "\n    NO " ++ Keyword.MAXVALUE.word := rfl
    have hcache : "CACHE " = Keyword.phrase [.CACHE] := rfl
    delta sql
    simp only [hcreate, has, hstart, hincrement, hmin, hmax, hcache, String.toList_append,
      List.append_assoc]
    rfl
  have hend : Apart (';' :: rest) := by simp
  have hcache := apart_optionSql (Keyword.phrase [.CACHE]) (s.cache.map integerSql) hend
  have hmax := apart_flag s.noMaxvalue .MAXVALUE hcache
  have hmin := apart_flag s.noMinvalue .MINVALUE hmax
  have hincrement :=
    apart_optionSql (Keyword.phrase [.INCREMENT, .BY]) (s.increment.map integerSql) hmin
  have hstart := apart_optionSql (Keyword.phrase [.START, .WITH]) (s.start.map integerSql) hincrement
  have htype := apart_optionSql (Keyword.phrase [.AS]) (s.type.map DataType.sql) hstart
  rw [htext, symbols_phrase, s.name.symbols_sql (htype.head?_ne (by decide)),
    symbols_optionSql s.type [.AS] fun t => t.symbols_sql hstart,
    symbols_optionSql s.start [.START, .WITH] fun n => symbols_integer n hincrement,
    symbols_optionSql s.increment [.INCREMENT, .BY] fun n => symbols_integer n hmin,
    symbols_flag s.noMinvalue .MINVALUE hmax, symbols_flag s.noMaxvalue .MAXVALUE hcache,
    symbols_optionSql s.cache [.CACHE] fun n => symbols_integer n hend, symbols_semicolon]
  simp [symbols, Symbol.semicolon]

end CreateSequence

/-- The attachment of a sequence lexes to its symbols. -/
theorem OwnSequence.symbols_sql (s : OwnSequence) :
    SchemaPatch.symbols (s.sql.toList ++ rest) =
      s.symbols ++ Symbol.semicolon :: SchemaPatch.symbols rest := by
  have htext : s.sql.toList ++ rest = (Keyword.phrase [.ALTER, .SEQUENCE]).toList ++
      (s.sequence.sql.toList ++ ' ' :: ((Keyword.phrase [.OWNED, .BY]).toList ++
        (s.table.sql.toList ++ '.' :: (s.column.sql.toList ++ ';' :: rest)))) := by
    delta sql
    simp [Keyword.phrase, Keyword.word]
  have hdigit : (s.column.sql.toList ++ ';' :: rest).head?.any Char.isDigit = false := by
    simp [Identifier.sql_toList, Quoted.quote]
  rw [htext, symbols_phrase, s.sequence.symbols_sql (by simp), symbols_space, symbols_phrase,
    s.table.symbols_sql (by simp), symbols_dot hdigit, symbols_name s.column (by simp),
    symbols_semicolon]
  simp [symbols, Symbol.semicolon]

/-! ### Changes to tables -/

namespace TableConstraint

theorem symbols_columns (columns : List Identifier) (rest : List Char) :
    SchemaPatch.symbols ('(' :: ((listed (columns.map Identifier.sql)).toList ++ ')' :: rest)) =
      Symbol.parenthesized (Symbol.listed (columns.map fun n => [.name n])) ++
        SchemaPatch.symbols rest := by
  have hlisted : SchemaPatch.symbols ((listed (columns.map Identifier.sql)).toList ++ ')' :: rest) =
      Symbol.listed (columns.map fun n => [.name n]) ++ SchemaPatch.symbols (')' :: rest) :=
    symbols_listed (fun n _ _ h => symbols_name n (h.head?_ne (by decide))) (by simp)
  rw [symbols_leftParen, hlisted, symbols_rightParen]
  simp [Symbol.parenthesized]

/-- A constraint lexes to its symbols. -/
theorem symbols_sql (c : TableConstraint) (rest : List Char) :
    SchemaPatch.symbols (c.sql.toList ++ rest) = c.symbols ++ SchemaPatch.symbols rest := by
  obtain ⟨name, kind, columns⟩ := c
  have hkind : SchemaPatch.symbols ((kind.sql ++ " (" ++ listed (columns.map Identifier.sql) ++
      ")").toList ++ rest) = kind.symbols ++ Symbol.parenthesized
        (Symbol.listed (columns.map fun n => [.name n])) ++ SchemaPatch.symbols rest := by
    cases kind with
    | unique =>
      have htext : (ConstraintKind.unique.sql ++ " (" ++ listed (columns.map Identifier.sql) ++
          ")").toList ++ rest = (Keyword.phrase [.UNIQUE]).toList ++
            '(' :: ((listed (columns.map Identifier.sql)).toList ++ ')' :: rest) := by
        simp [ConstraintKind.sql, Keyword.phrase, Keyword.word]
      rw [htext, symbols_phrase, symbols_columns]
      rfl
    | primaryKey =>
      have htext : (ConstraintKind.primaryKey.sql ++ " (" ++ listed (columns.map Identifier.sql) ++
          ")").toList ++ rest = (Keyword.phrase [.PRIMARY, .KEY]).toList ++
            '(' :: ((listed (columns.map Identifier.sql)).toList ++ ')' :: rest) := by
        simp [ConstraintKind.sql, Keyword.phrase, Keyword.word]
      rw [htext, symbols_phrase, symbols_columns]
      rfl
  cases name with
  | none =>
    have htext : (TableConstraint.mk none kind columns).sql =
        kind.sql ++ " (" ++ listed (columns.map Identifier.sql) ++ ")" := by
      simp [sql]
    rw [htext, hkind]
    rfl
  | some name =>
    have htext : (TableConstraint.mk (some name) kind columns).sql.toList ++ rest =
        (Keyword.phrase [.CONSTRAINT]).toList ++ (name.sql.toList ++ ' ' :: ((kind.sql ++ " (" ++
          listed (columns.map Identifier.sql) ++ ")").toList ++ rest)) := by
      simp [sql, Keyword.phrase, Keyword.word]
    rw [htext, symbols_phrase, symbols_name name (by simp), symbols_space, hkind]
    simp [symbols]

end TableConstraint

/-- A change to a table lexes to its symbols. -/
theorem AlterAction.symbols_sql {a : AlterAction} (ha : a.Readable Symbol.Survives) (h : Apart rest) :
    SchemaPatch.symbols (a.sql.toList ++ rest) = a.symbols ++ SchemaPatch.symbols rest := by
  cases a with
  | addConstraint constraint =>
    have htext : (addConstraint constraint).sql.toList ++ rest =
        (Keyword.phrase [.ADD]).toList ++ (constraint.sql.toList ++ rest) := by
      show ("ADD " ++ constraint.sql).toList ++ rest = _
      simp [Keyword.phrase, Keyword.word]
    rw [htext, symbols_phrase, constraint.symbols_sql]
    rfl
  | setDefault column value =>
    have htext : (setDefault column value).sql.toList ++ rest =
        (Keyword.phrase [.ALTER, .COLUMN]).toList ++ (column.sql.toList ++
          ' ' :: ((Keyword.phrase [.SET, .DEFAULT]).toList ++ (value.sql.toList ++ rest))) := by
      show ("ALTER COLUMN " ++ column.sql ++ " SET DEFAULT " ++ value.sql).toList ++ rest = _
      simp [Keyword.phrase, Keyword.word]
    rw [htext, symbols_phrase, symbols_name column (by simp), symbols_space, symbols_phrase,
      Expression.symbols_sql ha.spelled h]
    simp [symbols]

theorem AlterTable.symbols_sql {s : AlterTable} (hs : s.Readable Symbol.Survives) :
    SchemaPatch.symbols (s.sql.toList ++ rest) =
      s.symbols ++ Symbol.semicolon :: SchemaPatch.symbols rest := by
  have htext : s.sql.toList ++ rest = (Keyword.phrase [.ALTER, .TABLE]).toList ++
      ((if s.only then Keyword.phrase [.ONLY] else "").toList ++ (s.table.sql.toList ++
        ' ' :: ((listed (s.actions.map AlterAction.sql)).toList ++ ';' :: rest))) := by
    have halter : "ALTER TABLE " = Keyword.phrase [.ALTER, .TABLE] := rfl
    have honly : "ONLY " = Keyword.phrase [.ONLY] := rfl
    delta sql
    simp only [halter, honly, String.toList_append, List.append_assoc]
    rfl
  have hactions : SchemaPatch.symbols ((listed (s.actions.map AlterAction.sql)).toList ++
      ';' :: rest) = Symbol.listed (s.actions.map AlterAction.symbols) ++
        SchemaPatch.symbols (';' :: rest) :=
    symbols_listed (fun a ha _ h => AlterAction.symbols_sql (hs.actions a ha) h) (by simp)
  rw [htext, symbols_phrase, symbols_optional, s.table.symbols_sql (by simp), symbols_space,
    hactions, symbols_semicolon]
  simp [symbols, Symbol.semicolon]

/-! ### All statements -/

theorem SetSearchPath.symbols_sql {s : SetSearchPath} (hs : s.Readable Symbol.Survives) :
    SchemaPatch.symbols (s.sql.toList ++ rest) =
      s.symbols ++ Symbol.semicolon :: SchemaPatch.symbols rest := by
  have htext : s.sql.toList ++ rest = (Keyword.phrase [.SET]).toList ++ ("search_path".toList ++
      ' ' :: '=' :: ' ' :: ((listed (s.values.map Expression.sql)).toList ++ ';' :: rest)) := by
    delta sql
    simp [Keyword.phrase, Keyword.word]
  have hname : ∀ {cs : List Char}, Apart cs → SchemaPatch.symbols ("search_path".toList ++ cs) =
      ⟨.identifier, "search_path"⟩ :: SchemaPatch.symbols cs := symbols_word (by decide) (by decide)
  have hvalues : SchemaPatch.symbols ((listed (s.values.map Expression.sql)).toList ++
      ';' :: rest) = Symbol.listed (s.values.map Expression.symbols) ++
        SchemaPatch.symbols (';' :: rest) :=
    symbols_listed (fun e he _ h => Expression.symbols_sql (hs.values e he).spelled h) (by simp)
  rw [htext, symbols_phrase, hname (by simp), symbols_space, symbols_equal, symbols_space, hvalues,
    symbols_semicolon]
  simp [symbols, Symbol.semicolon]

/-- **A statement lexes to its symbols** and a semicolon if it can be read back and its strings and
numbers stand. -/
theorem Statement.symbols_sql {s : Statement} (hs : s.Readable Symbol.Survives) (rest : List Char) :
    SchemaPatch.symbols (s.sql.toList ++ rest) =
      s.symbols ++ Symbol.semicolon :: SchemaPatch.symbols rest := by
  cases s with
  | createSchema name =>
    have htext : (createSchema name).sql.toList ++ rest =
        (Keyword.phrase [.CREATE, .SCHEMA]).toList ++ (name.sql.toList ++ ';' :: rest) := by
      show ("CREATE SCHEMA " ++ name.sql ++ ";").toList ++ rest = _
      simp [Keyword.phrase, Keyword.word]
    rw [htext, symbols_phrase, symbols_name name (by simp), symbols_semicolon]
    rfl
  | createTable s => exact CreateTable.symbols_sql hs
  | createIndex s => exact CreateIndex.symbols_sql hs
  | createSequence s => exact s.symbols_sql
  | ownSequence s => exact s.symbols_sql
  | alterTable s => exact AlterTable.symbols_sql hs
  | setSearchPath s => exact SetSearchPath.symbols_sql hs

/-- The texts of statements lex to their symbols, each with a semicolon behind them. -/
theorem Statement.symbols_sqlAll {l : List Statement} (h : ∀ s ∈ l, s.Readable Symbol.Survives) :
    SchemaPatch.symbols (sqlAll l).toList = symbolsAll l := by
  induction l with
  | nil => exact symbols_nil
  | cons s l ih =>
    obtain ⟨hs, hl⟩ := List.forall_mem_cons.1 h
    have htext : (sqlAll (s :: l)).toList = s.sql.toList ++ '\n' :: (sqlAll l).toList := by
      simp [sqlAll]
    rw [htext, symbols_sql hs, symbols_lineFeed, ih hl]
    simp [symbolsAll]

end SchemaPatch
