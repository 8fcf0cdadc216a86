import SchemaPatch.Proofs.Token.Front
import SchemaPatch.Sql.Statement

/-!
# The symbols of statements

The symbols that the canonical text of a name, a type, an expression or a statement is made of, in
order. Names are quoted, the words of types are in lower case and all other keywords in upper case.
The semicolon behind a statement is not among its symbols.
-/

namespace SchemaPatch

namespace Symbol

/-- Symbols one after the other, with a comma between them. -/
def listed : List (List Symbol) → List Symbol
  | [] => []
  | [x] => x
  | x :: y :: rest => x ++ ⟨.comma, ","⟩ :: listed (y :: rest)

theorem listed_cons (x : Symbol) (xs : List Symbol) (l : List (List Symbol)) :
    ∃ zs, listed ((x :: xs) :: l) = x :: zs := by
  cases l <;> exact ⟨_, rfl⟩

/-- Symbols between parentheses. -/
def parenthesized (xs : List Symbol) : List Symbol :=
  ⟨.leftParen, "("⟩ :: (xs ++ [⟨.rightParen, ")"⟩])

/-- The symbol of a number without a sign. -/
def number (n : Nat) : Symbol := ⟨.number, Decimal.ofNat n⟩

@[simp] theorem number_kind (n : Nat) : (number n).kind = .number := rfl

/-- The symbols of a number with its sign. -/
def integer (n : Int64) : List Symbol :=
  if n.toInt < 0 then [⟨.minus, "-"⟩, number n.toInt.natAbs] else [number n.toInt.natAbs]

end Symbol

/-! ### Types -/

namespace DataType

/-- The symbol of a modifier. -/
def modifierSymbol (n : UInt32) : Symbol := .number n.toNat

/-- The symbols of a type. -/
def symbols : DataType → List Symbol
  | smallint => [⟨.keyword .SMALLINT, "smallint"⟩]
  | integer => [⟨.keyword .INTEGER, "integer"⟩]
  | bigint => [⟨.keyword .BIGINT, "bigint"⟩]
  | serial => [⟨.keyword .SERIAL, "serial"⟩]
  | bigserial => [⟨.keyword .BIGSERIAL, "bigserial"⟩]
  | numeric (some p) (some s) => ⟨.keyword .NUMERIC, "numeric"⟩ ::
      Symbol.parenthesized [modifierSymbol p, ⟨.comma, ","⟩, modifierSymbol s]
  | numeric (some p) none =>
    ⟨.keyword .NUMERIC, "numeric"⟩ :: Symbol.parenthesized [modifierSymbol p]
  | numeric none _ => [⟨.keyword .NUMERIC, "numeric"⟩]
  | character varying length => ⟨.keyword .CHARACTER, "character"⟩ ::
      ((if varying then [⟨.keyword .VARYING, "varying"⟩] else []) ++
        (match length with
          | some n => Symbol.parenthesized [modifierSymbol n]
          | none => []))
  | text => [⟨.keyword .TEXT, "text"⟩]
  | boolean => [⟨.keyword .BOOLEAN, "boolean"⟩]
  | bytea => [⟨.keyword .BYTEA, "bytea"⟩]
  | jsonb => [⟨.keyword .JSONB, "jsonb"⟩]
  | tsvector => [⟨.keyword .TSVECTOR, "tsvector"⟩]
  | uuid => [⟨.keyword .UUID, "uuid"⟩]
  | date => [⟨.keyword .DATE, "date"⟩]
  | timestamp true => [⟨.keyword .TIMESTAMP, "timestamp"⟩, ⟨.keyword .WITH, "with"⟩,
      ⟨.keyword .TIME, "time"⟩, ⟨.keyword .ZONE, "zone"⟩]
  | timestamp false => [⟨.keyword .TIMESTAMP, "timestamp"⟩, ⟨.keyword .WITHOUT, "without"⟩,
      ⟨.keyword .TIME, "time"⟩, ⟨.keyword .ZONE, "zone"⟩]

end DataType

/-! ### Expressions -/

/-- The symbols of an operator. -/
def BinaryOp.symbols : BinaryOp → List Symbol
  | add => [⟨.plus, "+"⟩]
  | sub => [⟨.minus, "-"⟩]
  | mul => [⟨.asterisk, "*"⟩]
  | div => [⟨.slash, "/"⟩]
  | typecast => [⟨.typecast, "::"⟩]
  | is => [.word .IS]
  | isNot => [.word .IS, .word .NOT]

/-- The symbol of a sign. -/
def UnaryOp.symbol : UnaryOp → Symbol
  | neg => ⟨.minus, "-"⟩
  | plus => ⟨.plus, "+"⟩

namespace Expression

mutual

/-- The symbols of an expression. -/
def symbols : Expression → List Symbol
  | identifier name => [.name name]
  | string literal => [⟨.string, literal⟩]
  | number literal => [⟨.number, literal⟩]
  | boolean true => [⟨.keyword .TRUE, "true"⟩]
  | boolean false => [⟨.keyword .FALSE, "false"⟩]
  | null => [.word .NULL]
  | group inner => Symbol.parenthesized inner.symbols
  | unary op operand => op.symbol :: operand.symbols
  | binary left op right => left.symbols ++ op.symbols ++ right.symbols
  | call callee args => callee.symbols ++ Symbol.parenthesized (symbolsList args)
  | type dataType => dataType.symbols

/-- The symbols of arguments, with a comma between them. -/
def symbolsList : List Expression → List Symbol
  | [] => []
  | [e] => e.symbols
  | e :: f :: rest => e.symbols ++ ⟨.comma, ","⟩ :: symbolsList (f :: rest)

end

theorem symbolsList_eq_listed (es : List Expression) :
    symbolsList es = Symbol.listed (es.map symbols) := by
  induction es with
  | nil => rfl
  | cons e es ih =>
    cases es with
    | nil => rfl
    | cons f es => simp only [symbolsList, ih, List.map_cons, Symbol.listed]

end Expression

/-! ### Statements -/

/-- The symbols of a name. -/
def ObjectName.symbols (n : ObjectName) : List Symbol :=
  match n.schema with
  | some schema => [.name schema, ⟨.dot, "."⟩, .name n.name]
  | none => [.name n.name]

/-- The symbols of a condition. -/
def ColumnConstraint.symbols : ColumnConstraint → List Symbol
  | notNull => [.word .NOT, .word .NULL]
  | null => []
  | default value => .word .DEFAULT :: value.symbols

/-- The symbols of the definition of a column. -/
def ColumnDefinition.symbols (c : ColumnDefinition) : List Symbol :=
  .name c.name :: (c.type.symbols ++ c.constraints.flatMap ColumnConstraint.symbols)

/-- The symbols of the creation of a table. -/
def CreateTable.symbols (s : CreateTable) : List Symbol :=
  .word .CREATE :: .word .TABLE :: (s.table.symbols ++
    Symbol.parenthesized (Symbol.listed (s.columns.map ColumnDefinition.symbols)))

/-- The symbols of what an index sorts by. -/
def IndexTarget.symbols (t : IndexTarget) : List Symbol :=
  t.key.symbols ++ if t.descending then [.word .DESC] else []

/-- The symbols of the creation of an index. -/
def CreateIndex.symbols (s : CreateIndex) : List Symbol :=
  .word .CREATE :: ((if s.unique then [.word .UNIQUE] else []) ++ .word .INDEX ::
    ((if s.concurrently then [.word .CONCURRENTLY] else []) ++
    (if s.ifNotExists then [.word .IF, .word .NOT, .word .EXISTS] else []) ++
    s.name.toList.map .name ++ .word .ON :: (s.table.symbols ++
    (s.method.toList.flatMap fun method => [.word .USING, .name method]) ++
    Symbol.parenthesized (Symbol.listed (s.targets.map IndexTarget.symbols)))))

/-- The symbols of the creation of a sequence. -/
def CreateSequence.symbols (s : CreateSequence) : List Symbol :=
  .word .CREATE :: .word .SEQUENCE :: (s.name.symbols ++
    (s.type.toList.flatMap fun t => .word .AS :: t.symbols) ++
    (s.start.toList.flatMap fun n => .word .START :: .word .WITH :: Symbol.integer n) ++
    (s.increment.toList.flatMap fun n => .word .INCREMENT :: .word .BY :: Symbol.integer n) ++
    (if s.noMinvalue then [.word .NO, .word .MINVALUE] else []) ++
    (if s.noMaxvalue then [.word .NO, .word .MAXVALUE] else []) ++
    (s.cache.toList.flatMap fun n => .word .CACHE :: Symbol.integer n))

/-- The symbols of the attachment of a sequence. -/
def OwnSequence.symbols (s : OwnSequence) : List Symbol :=
  .word .ALTER :: .word .SEQUENCE :: (s.sequence.symbols ++ .word .OWNED :: .word .BY ::
    (s.table.symbols ++ [⟨.dot, "."⟩, .name s.column]))

/-- The symbols of a kind of constraint. -/
def ConstraintKind.symbols : ConstraintKind → List Symbol
  | unique => [.word .UNIQUE]
  | primaryKey => [.word .PRIMARY, .word .KEY]

/-- The symbols of a constraint. -/
def TableConstraint.symbols (c : TableConstraint) : List Symbol :=
  (c.name.toList.flatMap fun name => [.word .CONSTRAINT, .name name]) ++ c.kind.symbols ++
    Symbol.parenthesized (Symbol.listed (c.columns.map fun n => [.name n]))

/-- The symbols of a change. -/
def AlterAction.symbols : AlterAction → List Symbol
  | addConstraint constraint => .word .ADD :: constraint.symbols
  | setDefault column value => .word .ALTER :: .word .COLUMN :: .name column :: .word .SET ::
      .word .DEFAULT :: value.symbols

/-- The symbols of changes to a table. -/
def AlterTable.symbols (s : AlterTable) : List Symbol :=
  .word .ALTER :: .word .TABLE :: ((if s.only then [.word .ONLY] else []) ++ s.table.symbols ++
    Symbol.listed (s.actions.map AlterAction.symbols))

/-- The symbols of a setting of the search path. -/
def SetSearchPath.symbols (s : SetSearchPath) : List Symbol :=
  .word .SET :: ⟨.identifier, "search_path"⟩ :: ⟨.equal, "="⟩ ::
    Symbol.listed (s.values.map Expression.symbols)

/-- The symbols of a statement. -/
def Statement.symbols : Statement → List Symbol
  | createSchema name => [.word .CREATE, .word .SCHEMA, .name name]
  | createTable s => s.symbols
  | createIndex s => s.symbols
  | createSequence s => s.symbols
  | ownSequence s => s.symbols
  | alterTable s => s.symbols
  | setSearchPath s => s.symbols

end SchemaPatch
