import SchemaPatch.Proofs.Sql.Readable
import SchemaPatch.Proofs.Sql.Symbols

/-!
# Symbols inside of statements

No symbol of a statement that can be read back is a semicolon, a command to the terminal client or a
token that breaks off (`Statement.plain_symbols`). So statements with semicolons behind them are cut
apart at these semicolons.
-/

namespace SchemaPatch

/-- A kind of token that can stand inside a statement that is read. -/
@[simp] def Token.Kind.isPlain : Token.Kind → Bool
  | .semicolon | .metaCommand | .unterminated => false
  | _ => true

/-- All symbols can stand inside a statement that is read. -/
def Plain (xs : List Symbol) : Prop := ∀ x ∈ xs, x.kind.isPlain

variable {xs ys : List Symbol} {x : Symbol}

@[simp] theorem plain_nil : Plain [] := by simp [Plain]

@[simp] theorem plain_cons : Plain (x :: xs) ↔ x.kind.isPlain ∧ Plain xs := by simp [Plain]

@[simp] theorem plain_append : Plain (xs ++ ys) ↔ Plain xs ∧ Plain ys := by
  simp [Plain, or_imp, forall_and]

@[simp] theorem plain_parenthesized : Plain (Symbol.parenthesized xs) ↔ Plain xs := by
  simp [Symbol.parenthesized]

theorem plain_listed {l : List (List Symbol)} (h : ∀ xs ∈ l, Plain xs) :
    Plain (Symbol.listed l) := by
  induction l with
  | nil => simp [Symbol.listed]
  | cons xs l ih =>
    obtain ⟨hxs, hl⟩ := List.forall_mem_cons.1 h
    cases l with
    | nil => exact hxs
    | cons ys l => simpa [Symbol.listed, hxs] using ih hl

theorem plain_flatMap {α : Type} {f : α → List Symbol} {l : List α} (h : ∀ a ∈ l, Plain (f a)) :
    Plain (l.flatMap f) := by
  intro x hx
  obtain ⟨a, ha, hxa⟩ := List.mem_flatMap.1 hx
  exact h a ha x hxa

/-- Symbols that may be left out. -/
theorem plain_optional {b : Bool} (h : Plain xs) : Plain (if b then xs else []) := by
  cases b with
  | false => exact plain_nil
  | true => exact h

theorem plain_integer (n : Int64) : Plain (Symbol.integer n) := by
  rw [Symbol.integer]
  split <;> simp

/-! ### Types and expressions -/

theorem DataType.plain_symbols (t : DataType) : Plain t.symbols := by
  cases t with
  | numeric precision scale =>
    cases precision <;> cases scale <;> simp [symbols, modifierSymbol]
  | character varying length =>
    cases varying <;> cases length <;> simp [symbols, modifierSymbol]
  | timestamp withTimeZone => cases withTimeZone <;> simp [symbols]
  | _ => simp [symbols]

theorem Expression.Spelled.plain_symbols {S : Symbol → Prop} {e : Expression} (he : e.Spelled S) :
    Plain e.symbols := by
  induction he with
  | boolean value => cases value <;> simp [symbols]
  | group _ ih => simpa [symbols] using ih
  | @unary op _ _ ih => cases op <;> simpa [symbols, UnaryOp.symbol] using ih
  | @binary _ _ op _ _ ihl ihr => cases op <;> simp [symbols, BinaryOp.symbols, ihl, ihr]
  | @call _ args _ _ ihc iha =>
    have hargs : Plain (Symbol.listed (args.map symbols)) :=
      plain_listed (List.forall_mem_map.2 iha)
    simpa [symbols, symbolsList_eq_listed, ihc] using hargs
  | type t => exact t.plain_symbols
  | _ => simp [symbols]

/-! ### Statements -/

theorem ObjectName.plain_symbols (n : ObjectName) : Plain n.symbols := by
  obtain ⟨schema, name⟩ := n
  cases schema <;> simp [symbols]

variable {S : Symbol → Prop}

theorem ColumnDefinition.Readable.plain_symbols {c : ColumnDefinition} (h : c.Readable S) :
    Plain c.symbols := by
  have hconstraints : Plain (c.constraints.flatMap ColumnConstraint.symbols) := by
    apply plain_flatMap
    intro k hk
    have := h.constraints k hk
    cases k with
    | default value => simpa [ColumnConstraint.symbols] using this.spelled.plain_symbols
    | _ => simp [ColumnConstraint.symbols]
  simp [ColumnDefinition.symbols, c.type.plain_symbols, hconstraints]

theorem CreateIndex.Readable.plain_symbols {s : CreateIndex} (h : s.Readable S) :
    Plain s.symbols := by
  have htargets : Plain (Symbol.listed (s.targets.map IndexTarget.symbols)) := by
    refine plain_listed (List.forall_mem_map.2 fun t ht => ?_)
    have hkey := (h.targets t ht).readable.spelled.plain_symbols
    cases hd : t.descending <;> simp [IndexTarget.symbols, hkey, hd]
  have hmethod : Plain (s.method.toList.flatMap fun method => [.word .USING, .name method]) :=
    plain_flatMap fun method _ => by simp
  have hname : Plain (s.name.toList.map .name) := by
    cases s.name <;> simp
  simp [CreateIndex.symbols, plain_optional, s.table.plain_symbols, htargets, hmethod, hname]

theorem CreateSequence.plain_symbols (s : CreateSequence) : Plain s.symbols := by
  have hinteger : ∀ (o : Option Int64) (k k' : Keyword),
      Plain (o.toList.flatMap fun n => .word k :: .word k' :: Symbol.integer n) :=
    fun o k k' => plain_flatMap fun n _ => by simp [plain_integer]
  have htype : Plain (s.type.toList.flatMap fun t => .word .AS :: t.symbols) :=
    plain_flatMap fun t _ => by simp [t.plain_symbols]
  have hcache : Plain (s.cache.toList.flatMap fun n => .word .CACHE :: Symbol.integer n) :=
    plain_flatMap fun n _ => by simp [plain_integer]
  simp [symbols, s.name.plain_symbols, hinteger, htype, hcache, plain_optional]

theorem AlterTable.Readable.plain_symbols {s : AlterTable} (h : s.Readable S) :
    Plain s.symbols := by
  have hactions : Plain (Symbol.listed (s.actions.map AlterAction.symbols)) := by
    refine plain_listed (List.forall_mem_map.2 fun a ha => ?_)
    have hreadable := h.actions a ha
    cases a with
    | addConstraint c =>
      have hname : Plain (c.name.toList.flatMap fun name => [.word .CONSTRAINT, .name name]) :=
        plain_flatMap fun name _ => by simp
      have hkind : Plain c.kind.symbols := by cases c.kind <;> simp [ConstraintKind.symbols]
      have hcolumns : Plain (Symbol.listed (c.columns.map fun n => [.name n])) :=
        plain_listed (List.forall_mem_map.2 fun n _ => by simp)
      simp [AlterAction.symbols, TableConstraint.symbols, hname, hkind, hcolumns]
    | setDefault column value =>
      simpa [AlterAction.symbols] using hreadable.spelled.plain_symbols
  simp [AlterTable.symbols, plain_optional, s.table.plain_symbols, hactions]

theorem Statement.Readable.plain_symbols {s : Statement} (h : s.Readable S) : Plain s.symbols := by
  cases s with
  | createSchema name => simp [Statement.symbols]
  | createTable s =>
    have hcolumns : Plain (Symbol.listed (s.columns.map ColumnDefinition.symbols)) :=
      plain_listed (List.forall_mem_map.2 fun c hc => (h c hc).plain_symbols)
    simp [Statement.symbols, CreateTable.symbols, s.table.plain_symbols, hcolumns]
  | createIndex s => exact CreateIndex.Readable.plain_symbols h
  | createSequence s => exact s.plain_symbols
  | ownSequence s =>
    simp [Statement.symbols, OwnSequence.symbols, s.sequence.plain_symbols, s.table.plain_symbols]
  | alterTable s => exact AlterTable.Readable.plain_symbols h
  | setSearchPath s =>
    have hvalues : Plain (Symbol.listed (s.values.map Expression.symbols)) :=
      plain_listed (List.forall_mem_map.2 fun e he => (h.values e he).spelled.plain_symbols)
    simp [Statement.symbols, SetSearchPath.symbols, hvalues]

end SchemaPatch
