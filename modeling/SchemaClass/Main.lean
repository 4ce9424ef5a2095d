import SchemaClass.Command.Program
/-!
# The command line program

The real file system behind the operations of `Disk`, and the streams and the exit code of the
process.  The words of the command line and the working directory come as texts, so every path here
is a text; where `kiln completions` and `kiln --help` would print a text of their own, this program
says how it is used.
-/

namespace SchemaClass

/-- The kind of a failure of the system. -/
def IoError.ofSystem : IO.Error → IoError
  | .noFileOrDirectory .. | .noSuchThing .. => .notFound
  | .alreadyExists .. => .alreadyExists
  | .inappropriateType _ 20 _ => .notADirectory
  | .inappropriateType _ 21 _ => .isADirectory
  | .invalidArgument .. => .invalidInput
  | .permissionDenied .. => .permissionDenied
  | e => .other (toString e)

/-- The result of an operation of the system. -/
def attempt {α : Type} (x : IO α) : IO (Except IoError α) := do
  match ← x.toBaseIO with
  | .ok a => return .ok a
  | .error e => return .error (.ofSystem e)

instance : Disk IO where
  pathExists p := return (← attempt (IO.FS.realPath p.text)).isOk
  isDirectory p := return (← attempt (IO.FS.realPath (p.text ++ "/."))).isOk
  readText p := attempt (IO.FS.readFile p.text)
  makeDirectory p := attempt (IO.FS.createDir p.text)
  writeText p text := attempt (IO.FS.writeFile p.text text)

namespace Command

/-- The text on the standard error output of a run that fails. -/
def failureText : Outcome → String
  | .misused => "usage: kiln [-v] generate [options] | kiln [-v] check [options]\n"
  | .ended (.schema e) =>
    Outcome.unlines ([e.message] ++ e.cause?.toList ++ e.labels.map (·.text) ++ e.help?.toList)
  | .ended (.failed causes) => Outcome.unlines causes
  | .broken => "the log filter is cut inside a character\n"
  | .version | .done .. => ""

end Command

end SchemaClass

open SchemaClass in
/-- Runs the program on the words of its command line. -/
def main (words : List String) : IO UInt32 := do
  let here : Path := ⟨toString (← IO.currentDir)⟩
  let log := (← IO.getEnv "KILN_LOG").getD "kiln=info"
  let outcome : Command.Outcome ← Command.run here log words
  (← IO.getStderr).putStr outcome.diagnostics
  (← IO.getStdout).putStr outcome.output
  (← IO.getStderr).putStr (Command.failureText outcome)
  return UInt32.ofNat outcome.exitCode
