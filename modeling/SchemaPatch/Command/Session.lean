import SchemaPatch.Command.FileTree
import SchemaPatch.Command.Run

/-!
# A session in memory

A session is a file tree and a console. The command can be run in it: it reads from the tree, writes
to the tree, and leaves texts on the console. A text that is written to a device of the console
comes among the others in its turn.
-/

namespace SchemaPatch.Command

/-- A file tree and a console. -/
structure Session where
  /-- The file tree. -/
  tree : FileTree
  /-- The text on standard output. -/
  stdout : String
  /-- The text on standard error. -/
  stderr : String
  deriving DecidableEq, Repr

namespace Session

/-- A session with some files in its working directory, and nothing on its console. -/
def ofFiles (files : List (String × List UInt8)) : Session := ⟨.ofFiles files, "", ""⟩

/-- Shows a text on standard output. -/
def print (s : Session) (text : String) : Session := { s with stdout := s.stdout ++ text }

/-- Shows a text on standard error. -/
def report (s : Session) (text : String) : Session := { s with stderr := s.stderr ++ text }

/-- Writes a text to a device. What has no room takes the empty text only. -/
def send (s : Session) (content : String) : Device → Except AccessError Session
  | .null | .endless => .ok s
  | .full => if content.isEmpty then .ok s else .error .noSpace
  | .terminal => .error .noDevice
  | .output => .ok (s.print content)
  | .errors => .ok (s.report content)

/-- Writes a text to a path. -/
def write (s : Session) (path content : String) : Except AccessError Session := do
  match ← s.tree.target path with
  | .file place => .ok { s with tree := s.tree.put place content.toUTF8.toList }
  | .device d => s.send content d

/-- A session as the system of the command. -/
def asSystem : System (StateM Session) where
  read path := return (← get).tree.read path
  write path content := do
    match (← get).write path content with
    | .error e => return .error e
    | .ok s => do
      set s
      return .ok ()
  print text := modify (·.print text)
  report text := modify (·.report text)

/-- The files of the working directory that are new or changed since another state of the
session. -/
def changedSince (before after : Session) : List (String × List UInt8) :=
  after.tree.files.filter fun f => !before.tree.files.contains f

end Session

end SchemaPatch.Command
