import SchemaPatch.Text.Spelling

/-!
# Data types

The types a column can have, and their spelling.
-/

namespace SchemaPatch

/-- A type of column. -/
inductive DataType where
  /-- Integers of two bytes. -/
  | smallint
  /-- Integers of four bytes. -/
  | integer
  /-- Integers of eight bytes. -/
  | bigint
  /-- Integers that count up by themselves. -/
  | serial
  /-- Integers of eight bytes that count up by themselves. -/
  | bigserial
  /-- Decimal numbers, with so many digits, so many of them behind the point. -/
  | numeric (precision scale : Option UInt32)
  /-- Texts of a length, or up to a length. -/
  | character (varying : Bool) (length : Option UInt32)
  /-- Texts. -/
  | text
  /-- Truth values. -/
  | boolean
  /-- Byte strings. -/
  | bytea
  /-- JSON documents. -/
  | jsonb
  /-- Documents for text search. -/
  | tsvector
  /-- Universally unique identifiers. -/
  | uuid
  /-- Dates. -/
  | date
  /-- Points in time, with their time zone or without. -/
  | timestamp (withTimeZone : Bool)
  deriving DecidableEq, Repr

namespace DataType

/-- A modifier of a type, in digits. -/
def modifier (n : UInt32) : String := Decimal.ofNat n.toNat

/-- The spelling of a type. A scale without a precision is not written. -/
def sql : DataType → String
  | smallint => "smallint"
  | integer => "integer"
  | bigint => "bigint"
  | serial => "serial"
  | bigserial => "bigserial"
  | numeric (some p) (some s) => "numeric(" ++ modifier p ++ "," ++ modifier s ++ ")"
  | numeric (some p) none => "numeric(" ++ modifier p ++ ")"
  | numeric none _ => "numeric"
  | character varying length =>
    "character" ++ (if varying then " varying" else "") ++
      (match length with
        | some n => "(" ++ modifier n ++ ")"
        | none => "")
  | text => "text"
  | boolean => "boolean"
  | bytea => "bytea"
  | jsonb => "jsonb"
  | tsvector => "tsvector"
  | uuid => "uuid"
  | date => "date"
  | timestamp true => "timestamp with time zone"
  | timestamp false => "timestamp without time zone"

end DataType

end SchemaPatch
