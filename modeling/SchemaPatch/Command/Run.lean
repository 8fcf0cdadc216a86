import SchemaPatch.Command.Options
import SchemaPatch.Command.System
import SchemaPatch.Log.Comparison
import SchemaPatch.Text.Utf8

/-!
# Running the command

The command reads two schemas, compares them, and writes the patch or shows it. On standard error it
shows what happens as it happens. A run ends with an exit status: zero if the patch was handed out,
one if it could not be made or written, and two if the arguments make no sense.
-/

namespace SchemaPatch.Command

/-- The name and version of the command. -/
def versionText : String := "pgconverge 0.1.0\n"

/-- The arguments of the command in brief. -/
def usageText : String :=
  "Usage: pgconverge [OPTIONS] --source <SOURCE> --desired <DESIRED>\n"

/-- What the command is for, with its options. -/
def helpText : String :=
  "Generate the patch that converges a PostgreSQL schema\n\n" ++ usageText ++
    "\nOptions:\n" ++
    "  -s, --source <SOURCE>    Schema dump describing the current database\n" ++
    "  -d, --desired <DESIRED>  Schema dump describing the schema to converge to\n" ++
    "  -o, --output <OUTPUT>    Write the patch to a file instead of stdout\n" ++
    "  -v, --verbose            Enable verbose output\n" ++
    "  -h, --help               Print help\n" ++
    "  -V, --version            Print version\n"

/-- The least level of event that the console shows. -/
def Options.level (o : Options) : Level := if o.verbose then .debug else .info

/-- The event of reading a schema. -/
def readingEvent (path : String) : Event := ⟨.debug, "Reading schema", [("path", .plain path)]⟩

/-- The event of two schemas without a difference. -/
def identicalEvent : Event := ⟨.info, "Schemas are identical, nothing to do.", []⟩

/-- The event of a patch written to a file. -/
def writtenEvent (path : String) : Event := ⟨.info, "Patch written", [("path", .plain path)]⟩

/-- The event of a refusal. -/
def refusalEvent (r : Refusal) : Event := ⟨.error, r.summary, []⟩

/-- How a file out of reach is reported; `verb` says what was to be done with it. -/
def accessText (verb path : String) (e : AccessError) : String :=
  "Error: failed to " ++ verb ++ " " ++ path ++ "\n\nCaused by:\n    " ++ e.message ++ "\n"

/-- The document that the bytes of a file hold, under its path for a name. -/
def documentOf (path : String) (bytes : List UInt8) : Document :=
  .ofText path (String.ofList (Utf8.decode bytes))

variable {m : Type → Type} [Monad m]

/-- Shows the events of a log. -/
def System.log (s : System m) (o : Options) (events : List Event) : m Unit :=
  s.report (Event.console o.level events)

/-- Hands out a patch. -/
def deliver (s : System m) (o : Options) (p : Patch) : m Nat := do
  if p.isEmpty then s.log o [identicalEvent]
  match o.output with
  | none => do
    s.print p.sql
    return 0
  | some path =>
    match ← s.write path p.sql with
    | .error e => do
      s.report (accessText "write" path e)
      return 1
    | .ok () => do
      s.log o [writtenEvent path]
      return 0

/-- Compares two schemas and hands out the patch between them. -/
def compare (s : System m) (o : Options) (c : Comparison) : m Nat := do
  s.log o c.events
  match c.patch with
  | .error r => do
    s.log o [refusalEvent r]
    s.report (r.detail ++ "\n")
    return 1
  | .ok p => deliver s o p

/-- Makes a patch. -/
def makePatch (s : System m) (o : Options) : m Nat := do
  s.log o [readingEvent o.source]
  match ← s.read o.source with
  | .error e => do
    s.report (accessText "read" o.source e)
    return 1
  | .ok source => do
    s.log o [readingEvent o.desired]
    match ← s.read o.desired with
    | .error e => do
      s.report (accessText "read" o.desired e)
      return 1
    | .ok desired => compare s o ⟨documentOf o.source source, documentOf o.desired desired⟩

/-- Does what is asked for, and says the exit status. -/
def run (s : System m) : Request → m Nat
  | .patch o => makePatch s o
  | .help => do
    s.print helpText
    return 0
  | .version => do
    s.print versionText
    return 0
  | .misuse => do
    s.report usageText
    return 2

end SchemaPatch.Command
