/-!
# What the command reaches

The command reaches files and the console. It does so through an interface, so the same run serves
a real system and one in memory.
-/

namespace SchemaPatch.Command

/-- Why a file is out of reach. -/
inductive AccessError where
  /-- There is no such file. -/
  | notFound
  /-- There is nothing behind the device. -/
  | noDevice
  /-- A file stands where the path needs a directory. -/
  | notDirectory
  /-- The path leads to a directory. -/
  | isDirectory
  /-- There is no room for what is to be written. -/
  | noSpace
  /-- The path, or a name on it, is longer than the system takes. -/
  | nameTooLong
  /-- What is to be read does not fit into memory. -/
  | outOfMemory
  /-- Another reason, in the words of the system. -/
  | other (reason : String)
  deriving DecidableEq, Repr

/-- The words of the system for a reason. -/
def AccessError.message : AccessError → String
  | notFound => "No such file or directory (os error 2)"
  | noDevice => "No such device or address (os error 6)"
  | notDirectory => "Not a directory (os error 20)"
  | isDirectory => "Is a directory (os error 21)"
  | noSpace => "No space left on device (os error 28)"
  | nameTooLong => "File name too long (os error 36)"
  | outOfMemory => "out of memory"
  | other reason => reason

/-- How files and the console are reached. -/
structure System (m : Type → Type) where
  /-- Reads the file at a path. -/
  read : String → m (Except AccessError (List UInt8))
  /-- Writes a file at a path. -/
  write : String → String → m (Except AccessError Unit)
  /-- Shows a text on standard output. -/
  print : String → m Unit
  /-- Shows a text on standard error. -/
  report : String → m Unit

end SchemaPatch.Command
