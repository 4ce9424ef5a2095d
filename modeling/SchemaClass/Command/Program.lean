import SchemaClass.Command.Check
import SchemaClass.Log.Filter
/-!
# The program

From the words of a command line to an exit code and the texts for both output streams.

* `run`: what a command line leads to;
* `Outcome.exitCode`, `Outcome.output`, `Outcome.diagnostics`: what is seen of it.
-/

namespace SchemaClass.Command

/-- How a run ends. -/
inductive Outcome where
  | version
  /-- The command line is not understood. -/
  | misused
  /-- The program breaks off where the text of a filter would be cut inside a character. -/
  | broken
  | done (filter : LogFilter) (result : Result)
  | ended (e : CommandError)
  deriving DecidableEq, Repr

namespace Outcome

def exitCode : Outcome → Nat
  | version | done .. => 0
  | ended _ => 1
  | misused => 2
  | broken => 101

/-- What is written for `--version`. -/
def versionLine : String := "kiln 0.3.0"

/-- Lines, each with its end. -/
def unlines (lines : List String) : String := String.join (lines.map (· ++ "\n"))

/-- The text on the standard output. -/
def output : Outcome → String
  | version => unlines [versionLine]
  | done _ result => unlines ((result.report.filter (!·.isDiagnostic)).map (·.shown))
  | misused | broken | ended _ => ""

/-- The text on the standard error output of a run that ends well. -/
def diagnostics : Outcome → String
  | done filter result =>
    unlines ((result.log.filter filter.shows).map (·.text) ++
      (result.report.filter (·.isDiagnostic)).map (·.shown))
  | version | misused | broken | ended _ => ""

/-- The causes of a failure, outermost first. -/
def causes : Outcome → List String
  | ended (.failed causes) => causes
  | _ => []

end Outcome

variable {m : Type → Type} [Monad m] [Disk m]

/-- Does what is asked for, from the working directory `here`. -/
def perform (here : Path) (filter : LogFilter) : Request → m Outcome
  | .version => return .version
  | .generate o => do
    match ← generate here o with
    | .ok result => return .done filter result
    | .error e => return .ended e
  | .check o => do
    match ← check o with
    | .ok result => return .done filter result
    | .error e => return .ended e

/-- Runs the program on the words of a command line; `log` asks for a filter (`Cli.run`). -/
def run (here : Path) (log : String) (words : List String) : m Outcome := do
  match Request.ofWords false words with
  | .error _ => return .misused
  | .ok (_, .version) => return .version
  | .ok (verbose, request) =>
    match if verbose then .ok .verbose else LogFilter.ofText log with
    | .ok filter => perform here filter request
    | .error .malformed => perform here .standard request
    | .error .cut => return .broken

end SchemaClass.Command
