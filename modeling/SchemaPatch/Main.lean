import SchemaPatch.Command.Run

/-!
# The command

Reads the arguments and the environment, and runs with the files on disk and the real console.
-/

namespace SchemaPatch.Command

/-- The reason that goes with an error code of the system; `details` are the words for it. -/
def AccessError.ofCode (code : UInt32) (details : String) : AccessError :=
  match code.toNat with
  | 2 => .notFound
  | 6 => .noDevice
  | 20 => .notDirectory
  | 21 => .isDirectory
  | 28 => .noSpace
  | 36 => .nameTooLong
  | n => .other (details ++ " (os error " ++ toString n ++ ")")

/-- The reason why a file is out of reach. -/
def AccessError.ofSystem : IO.Error → AccessError
  | .noFileOrDirectory _ code details => .ofCode code details
  | .noSuchThing _ code details => .ofCode code details
  | .inappropriateType _ code details => .ofCode code details
  | .invalidArgument _ code details => .ofCode code details
  | .permissionDenied _ code details => .ofCode code details
  | .resourceExhausted _ code details => .ofCode code details
  | e => .other (toString e)

/-- The files on disk and the console. -/
def realSystem : System IO where
  read path := do
    try
      let file ← IO.FS.Handle.mk path .read
      return .ok (← file.readBinToEnd).toList
    catch e => return .error (.ofSystem e)
  write path content := do
    try
      let file ← IO.FS.Handle.mk path .write
      file.putStr content
      file.flush
      return .ok ()
    catch e => return .error (.ofSystem e)
  print text := do (← IO.getStdout).putStr text
  report text := do (← IO.getStderr).putStr text

end SchemaPatch.Command

/-- Does what the arguments and the environment ask for. -/
def main (args : List String) : IO UInt32 := do
  let source ← IO.getEnv SchemaPatch.Command.sourceVariable
  let desired ← IO.getEnv SchemaPatch.Command.desiredVariable
  let status ← SchemaPatch.Command.run SchemaPatch.Command.realSystem
    (.ofArguments ⟨source, desired⟩ args)
  return UInt32.ofNat status
