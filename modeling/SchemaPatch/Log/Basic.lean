import SchemaPatch.Text.Spelling
import SchemaPatch.Text.Escaped

/-!
# Log events

An event of a log has a level, a message and fields. On the console it is one line, shown only if
its level is at least that of the console.
-/

namespace SchemaPatch

/-- How much an event matters. -/
inductive Level where
  /-- A step of the work. -/
  | trace
  /-- Something that explains the outcome. -/
  | debug
  /-- Something to tell the user. -/
  | info
  /-- Something that the user may not have meant. -/
  | warn
  /-- Something that keeps the work from being done. -/
  | error
  deriving DecidableEq, Repr

namespace Level

/-- The name of a level. -/
def name : Level → String
  | trace => "TRACE"
  | debug => "DEBUG"
  | info => "INFO"
  | warn => "WARN"
  | error => "ERROR"

/-- The place of a level, counted from the least. -/
def rank : Level → Nat
  | trace => 0
  | debug => 1
  | info => 2
  | warn => 3
  | error => 4

/-- The name of a level behind blanks, five characters in all. -/
def label (l : Level) : String := String.ofList (List.leftpad 5 ' ' l.name.toList)

end Level

/-- The value of a field. -/
inductive Event.Value where
  /-- A text that the console shows as it is. -/
  | plain (s : String)
  /-- A text that the console shows between quotes. -/
  | quoted (s : String)
  /-- A number. -/
  | number (n : Nat)
  deriving DecidableEq, Repr

namespace Event.Value

/-- A value as a text. -/
def text : Event.Value → String
  | plain s | quoted s => s
  | number n => Decimal.ofNat n

/-- A value as the console shows it. -/
def shown : Event.Value → String
  | plain s => s
  | quoted s => Escaped.text s
  | number n => Decimal.ofNat n

end Event.Value

/-- A field of an event: its name and its value. -/
abbrev Event.Field := String × Event.Value

/-- An event of a log. -/
structure Event where
  /-- How much it matters. -/
  level : Level
  /-- What happened. -/
  message : String
  /-- To what, and where. -/
  fields : List Event.Field
  deriving DecidableEq, Repr

namespace Event

/-- The text of fields on the console, each behind a space. -/
def fieldsText : List Field → String
  | [] => ""
  | (name, value) :: rest => " " ++ name ++ "=" ++ value.shown ++ fieldsText rest

/-- An event as a line on the console, with its line feed. -/
def line (e : Event) : String :=
  e.level.label ++ " " ++ e.message ++ fieldsText e.fields ++ "\n"

/-- The lines of the events that matter at least as much as `least`. -/
def console (least : Level) : List Event → String
  | [] => ""
  | e :: rest =>
    if least.rank ≤ e.level.rank then e.line ++ console least rest else console least rest

end Event

end SchemaPatch
