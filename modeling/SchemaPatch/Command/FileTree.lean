import SchemaPatch.Command.System

/-!
# A file tree in memory

A tree of directories, files and devices, with a directory in it that the command works in. A path
is followed step by step, from the root if it begins with a slash and else from the working
directory. Each step but the last has to lead to a directory; a step of two dots leads to the
directory above, and from the root to the root.

A path can hold at most 4095 bytes, and a step of it at most 255. The first is seen before the path
is followed, the second when the step is taken.
-/

namespace SchemaPatch.Command

/-- A device, by what it does with texts. -/
inductive Device where
  /-- Holds nothing and takes everything. -/
  | null
  /-- Holds bytes without end and takes everything. -/
  | endless
  /-- Holds bytes without end and has no room. -/
  | full
  /-- A terminal that is not there. -/
  | terminal
  /-- Standard output. -/
  | output
  /-- Standard error. -/
  | errors
  deriving DecidableEq, Repr

/-- What stands at a place of a file tree. -/
inductive Entry where
  /-- A file. -/
  | file (bytes : List UInt8)
  /-- A directory. -/
  | directory
  /-- A device. -/
  | device (device : Device)
  deriving DecidableEq, Repr

/-- The bytes that are read from an entry. -/
def Entry.read : Entry → Except AccessError (List UInt8)
  | file bytes => .ok bytes
  | directory => .error .isDirectory
  | device .endless | device .full => .error .outOfMemory
  | device .terminal => .error .noDevice
  | device .null | device .output | device .errors => .ok []

/-- A file tree. A place in it is told by the steps that lead there from the root. -/
structure FileTree where
  /-- What stands at some places. Above each of them there are directories. -/
  entries : List (List String × Entry)
  /-- The working directory. -/
  home : List String
  deriving DecidableEq, Repr

namespace FileTree

/-- The directories at the root of every system. -/
def rootDirectories : List String :=
  ["bin", "boot", "dev", "etc", "home", "lib", "media", "mnt", "opt", "proc", "root", "run", "sbin",
    "srv", "sys", "tmp", "usr", "var"]

/-- The devices of every system. Standard input holds nothing. -/
def devices : List (String × Device) :=
  [("null", .null), ("zero", .endless), ("random", .endless), ("urandom", .endless),
    ("full", .full), ("tty", .terminal), ("stdin", .null), ("stdout", .output),
    ("stderr", .errors)]

/-- The devices that a command has open from the start, by their numbers. -/
def openDevices : List (String × Device) := [("0", .null), ("1", .output), ("2", .errors)]

/-- What every system has in its tree. -/
def standardEntries : List (List String × Entry) :=
  (rootDirectories.map fun name => ([name], .directory)) ++
    (devices.map fun (name, d) => (["dev", name], .device d)) ++
    (openDevices.map fun (name, d) => (["dev", "fd", name], .device d)) ++
    openDevices.map fun (name, d) => (["proc", "self", "fd", name], .device d)

/-- The steps that a path spells. -/
def spelled (path : String) : List String := path.splitOn "/"

/-- A tree with some files, each told by its path in the working directory. -/
def ofFiles (files : List (String × List UInt8)) : FileTree :=
  let home := ["tmp", "work"]
  ⟨(files.map fun (path, bytes) => (home ++ spelled path, .file bytes)) ++
    (home, .directory) :: standardEntries, home⟩

/-- What stands at a place. -/
def entry? (t : FileTree) (place : List String) : Option Entry :=
  match t.entries.find? fun e => e.1 == place with
  | some e => some e.2
  | none =>
    if place.isEmpty || t.entries.any fun e => place.isPrefixOf e.1 then some .directory else none

/-- Most bytes of a path. -/
def pathLimit : Nat := 4095

/-- Most bytes of a step. -/
def stepLimit : Nat := 255

/-- Follows steps from a place, which has to be a directory unless there are no more of them. The
last of them may lead to nothing. -/
def follow (t : FileTree) (place : List String) : List String → Except AccessError (List String)
  | [] => .ok place
  | step :: steps =>
    match t.entry? place with
    | none => .error .notFound
    | some (.file _) | some (.device _) => .error .notDirectory
    | some .directory =>
      if step = "" ∨ step = "." then follow t place steps
      else if step = ".." then follow t place.dropLast steps
      else if stepLimit < step.utf8ByteSize then .error .nameTooLong
      else follow t (place ++ [step]) steps

/-- The place that a path is followed from. -/
def start (t : FileTree) (path : String) : Except AccessError (List String) :=
  if path.isEmpty then .error .notFound
  else if pathLimit < path.utf8ByteSize then .error .nameTooLong
  else .ok (if path.startsWith "/" then [] else t.home)

/-- Reads the file at a path. -/
def read (t : FileTree) (path : String) : Except AccessError (List UInt8) := do
  let place ← t.follow (← t.start path) (spelled path)
  match t.entry? place with
  | some e => e.read
  | none => .error .notFound

/-- What a text can be written to. -/
inductive Target where
  /-- The file at a place, whether it is there yet or not. -/
  | file (place : List String)
  /-- A device. -/
  | device (device : Device)
  deriving DecidableEq, Repr

/-- What a text for a path is written to. A path that ends with a slash is that of a directory,
whatever its last step may be. -/
def target (t : FileTree) (path : String) : Except AccessError Target := do
  let start ← t.start path
  if path.endsWith "/" then
    let _ ← t.follow start ((spelled (path.dropEndWhile '/').toString).dropLast ++ ["."])
    .error .isDirectory
  else
    let place ← t.follow start (spelled path)
    match t.entry? place with
    | some .directory => .error .isDirectory
    | some (.device d) => .ok (.device d)
    | some (.file _) | none => .ok (.file place)

/-- A tree with a file at a place. -/
def put (t : FileTree) (place : List String) (bytes : List UInt8) : FileTree :=
  ⟨(place, .file bytes) :: t.entries.filter fun e => e.1 != place, t.home⟩

/-- The files below the working directory, each under its path there. -/
def files (t : FileTree) : List (String × List UInt8) :=
  t.entries.filterMap fun (place, e) =>
    match e with
    | .file bytes =>
      if t.home.isPrefixOf place then some ("/".intercalate (place.drop t.home.length), bytes)
      else none
    | _ => none

end FileTree

end SchemaPatch.Command
