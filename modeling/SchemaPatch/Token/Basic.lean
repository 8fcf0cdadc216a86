import SchemaPatch.Token.Keyword

/-!
# Tokens

A token is a piece of a document that is not blank and no comment: its kind, its text as it was
written, and the line it starts on.
-/

namespace SchemaPatch

/-- What kind of thing a token is. -/
inductive Token.Kind where
  /-- A character that starts no token. Reading goes on after it. -/
  | stray
  /-- The rest of a document from a string, quoted name or block comment on that never ends. -/
  | unterminated
  /-- The end of the document. -/
  | endOfInput
  /-- A name, between double quotes or not. -/
  | identifier
  /-- A string between single quotes or between dollar tags. -/
  | string
  /-- Digits, with a point or without. -/
  | number
  /-- A command to the terminal client, up to the end of its line. -/
  | metaCommand
  /-- A keyword. -/
  | keyword (k : Keyword)
  /-- A point. -/
  | dot
  /-- A semicolon. -/
  | semicolon
  /-- A comma. -/
  | comma
  /-- An opening parenthesis. -/
  | leftParen
  /-- A closing parenthesis. -/
  | rightParen
  /-- An equals sign. -/
  | equal
  /-- A plus sign. -/
  | plus
  /-- A minus sign. -/
  | minus
  /-- An asterisk. -/
  | asterisk
  /-- A slash. -/
  | slash
  /-- The cast operator, two colons. -/
  | typecast
  deriving DecidableEq, Repr

/-- How error messages name a kind of token. -/
def Token.Kind.describe : Token.Kind → String
  | .stray | .unterminated => "illegal token"
  | .endOfInput => "end of input"
  | .identifier => "identifier"
  | .string => "string"
  | .number => "number"
  | .metaCommand => "meta-command"
  | .keyword k => k.word
  | .dot => "."
  | .semicolon => ";"
  | .comma => ","
  | .leftParen => "("
  | .rightParen => ")"
  | .equal => "="
  | .plus => "+"
  | .minus => "-"
  | .asterisk => "*"
  | .slash => "/"
  | .typecast => "::"

/-- Whether tokens of a kind have no place in any statement. -/
def Token.Kind.isIllegal : Token.Kind → Bool
  | .stray | .unterminated => true
  | _ => false

/-- The keyword of a kind, if it is one of keywords. -/
def Token.Kind.keyword? : Token.Kind → Option Keyword
  | .keyword k => some k
  | _ => none

/-- A token. -/
structure Token where
  /-- What kind of thing it is. -/
  kind : Token.Kind
  /-- Its text, as it was written. -/
  literal : String
  /-- The line it starts on, counted from one. -/
  line : Nat
  deriving DecidableEq, Repr

namespace Token

/-- The token that ends a document, on its last line. -/
def eof (line : Nat) : Token := ⟨.endOfInput, "", line⟩

/-- Whether a token ends a document. -/
def isEof (t : Token) : Bool := t.kind == .endOfInput

/-- The keyword that a token is, if it is one. -/
def keyword? (t : Token) : Option Keyword := t.kind.keyword?

/-- Whether a token may stand for a name: a name, or a keyword that is not reserved. -/
def isIdentifier (t : Token) : Bool :=
  match t.kind with
  | .identifier => true
  | .keyword k => !k.isReserved
  | _ => false

/-- How error messages refer to a token: by its text, or by its kind if it has none. -/
def describe (t : Token) : String :=
  if t.literal.isEmpty then t.kind.describe else t.literal

end Token

end SchemaPatch
