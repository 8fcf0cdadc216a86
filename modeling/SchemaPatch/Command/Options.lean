/-!
# Options of the command

The command takes options only: long ones, whose value follows in the same argument behind an equals
sign or in the next one, and short ones, which can be run together and whose value is the rest of the
argument or the next one. Arguments are taken from the left; the first that asks for help or for the
version, or that has no place, decides. Two options can be given by the environment instead.
-/

namespace SchemaPatch.Command

/-- What the environment says. -/
structure Environment where
  /-- The path of the schema to be changed. -/
  source : Option String
  /-- The path of the schema that it is to become like. -/
  desired : Option String
  deriving DecidableEq, Repr

/-- The names of the variables that the environment is read from. -/
def sourceVariable : String := "PGCONVERGE_SOURCE"

@[inherit_doc sourceVariable]
def desiredVariable : String := "PGCONVERGE_DESIRED"

/-- What the command is to do. -/
structure Options where
  /-- The path of the schema to be changed. -/
  source : String
  /-- The path of the schema that it is to become like. -/
  desired : String
  /-- The path that the patch is written to; without one it goes to the console. -/
  output : Option String
  /-- Whether the log is shown in detail. -/
  verbose : Bool
  deriving DecidableEq, Repr

/-- What the arguments ask for. -/
inductive Request where
  /-- A patch. -/
  | patch (options : Options)
  /-- Help. -/
  | help
  /-- The version. -/
  | version
  /-- Nothing that can be made sense of. -/
  | misuse
  deriving DecidableEq, Repr

/-- An option that has a value. -/
inductive Setting where
  /-- The path of the schema to be changed. -/
  | source
  /-- The path of the schema that it is to become like. -/
  | desired
  /-- The path that the patch is written to. -/
  | output
  deriving DecidableEq, Repr

/-- An option. -/
inductive Choice where
  /-- An option that has a value. -/
  | setting (s : Setting)
  /-- A detailed log. -/
  | verbose
  /-- Help. -/
  | help
  /-- The version. -/
  | version
  deriving DecidableEq, Repr

/-- The option of a long name. -/
def Choice.ofLong? (name : String) : Option Choice :=
  if name = "source" then some (.setting .source)
  else if name = "desired" then some (.setting .desired)
  else if name = "output" then some (.setting .output)
  else if name = "verbose" then some .verbose
  else if name = "help" then some .help
  else if name = "version" then some .version
  else none

/-- The option of a short name. -/
def Choice.ofShort? : Char → Option Choice
  | 's' => some (.setting .source)
  | 'd' => some (.setting .desired)
  | 'o' => some (.setting .output)
  | 'v' => some .verbose
  | 'h' => some .help
  | 'V' => some .version
  | _ => none

/-- The options that were given so far. -/
structure Given where
  /-- The source, if it was given. -/
  source : Option String
  /-- The desired schema, if it was given. -/
  desired : Option String
  /-- The output, if it was given. -/
  output : Option String
  /-- Whether a detailed log was asked for. -/
  verbose : Bool
  deriving DecidableEq, Repr

namespace Given

/-- Nothing given yet. -/
def none : Given := ⟨.none, .none, .none, false⟩

/-- The value that an option was given. -/
def value? (g : Given) : Setting → Option String
  | .source => g.source
  | .desired => g.desired
  | .output => g.output

/-- Gives an option a value, which must not be empty, unless it has one. -/
def set? (g : Given) (s : Setting) (value : String) : Option Given :=
  if value.isEmpty || (g.value? s).isSome then .none
  else
    match s with
    | .source => some { g with source := some value }
    | .desired => some { g with desired := some value }
    | .output => some { g with output := some value }

/-- Asks for a detailed log, unless that was asked for. -/
def setVerbose? (g : Given) : Option Given :=
  if g.verbose then .none else some { g with verbose := true }

/-- A path that was given, or else the one of the environment, which must not be empty. -/
def path? (given environment : Option String) : Option String :=
  match given, environment with
  | some path, _ => some path
  | .none, some path => if path.isEmpty then .none else some path
  | .none, .none => .none

/-- What options ask for when all of them were given. -/
def request (env : Environment) (g : Given) : Request :=
  match path? g.source env.source, path? g.desired env.desired with
  | some source, some desired => .patch ⟨source, desired, g.output, g.verbose⟩
  | _, _ => .misuse

end Given

/-- Whether an argument can be the value of the option before it. A single dash can. -/
def isValue (arg : String) : Bool :=
  match arg.toList with
  | '-' :: _ :: _ => false
  | _ => true

/-- What stands before the first equals sign of a text, and what stands behind it if there is one. -/
def splitAtEquals (cs : List Char) : List Char × Option (List Char) :=
  match cs.dropWhile (· != '=') with
  | _ :: value => (cs.takeWhile (· != '='), some value)
  | [] => (cs, none)

/-- The value of a short option in the rest of its argument. -/
def attachedValue : List Char → String
  | '=' :: cs => String.ofList cs
  | cs => String.ofList cs

/-- What one argument comes to. -/
inductive Step where
  /-- The argument is taken up. -/
  | next (g : Given)
  /-- The argument ends with an option whose value is the next one. -/
  | wanting (g : Given) (s : Setting)
  /-- The argument decides what is asked for. -/
  | done (r : Request)
  deriving DecidableEq, Repr

/-- Takes up options, or finds them misused. -/
def Step.ofOption : Option Given → Step
  | some g => .next g
  | none => .done .misuse

/-- Takes up short options that are run together. -/
def shortStep (g : Given) : List Char → Step
  | [] => .next g
  | c :: cs =>
    match Choice.ofShort? c with
    | some (.setting s) =>
      match cs with
      | [] => .wanting g s
      | _ => .ofOption (g.set? s (attachedValue cs))
    | some .verbose =>
      match g.setVerbose? with
      | some g' => shortStep g' cs
      | none => .done .misuse
    | some .help => .done .help
    | some .version => .done .version
    | none => .done .misuse

/-- Takes up a long option, by its name and what follows in the same argument. -/
def longStep (g : Given) (name : String) (value : Option String) : Step :=
  match Choice.ofLong? name, value with
  | some (.setting s), some value => .ofOption (g.set? s value)
  | some (.setting s), none => .wanting g s
  | some .verbose, none => .ofOption g.setVerbose?
  | some .help, none => .done .help
  | some .version, none => .done .version
  | _, _ => .done .misuse

/-- Takes up an argument. -/
def step (g : Given) (arg : String) : Step :=
  match arg.toList with
  | '-' :: '-' :: cs =>
    longStep g (String.ofList (splitAtEquals cs).1) ((splitAtEquals cs).2.map String.ofList)
  | '-' :: c :: cs => shortStep g (c :: cs)
  | _ => .done .misuse

/-- What arguments ask for where others came before. An argument of two dashes ends the options. -/
def Request.ofRest (env : Environment) (g : Given) : List String → Request
  | [] => g.request env
  | arg :: args =>
    if arg = "--" then (if args.isEmpty then g.request env else .misuse)
    else
      match step g arg with
      | .next g' => ofRest env g' args
      | .done r => r
      | .wanting g' s =>
        match args with
        | value :: args' =>
          if isValue value then
            match g'.set? s value with
            | some g'' => ofRest env g'' args'
            | none => .misuse
          else .misuse
        | [] => .misuse

/-- What the arguments of the command ask for. -/
def Request.ofArguments (env : Environment) (args : List String) : Request :=
  ofRest env .none args

end SchemaPatch.Command
