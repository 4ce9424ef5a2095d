import SchemaClass.Batch
import SchemaClass.Config.Basic
import SchemaClass.Diagnostic
import SchemaClass.IoError
/-!
# Builds

A build is what is known of a run: the document, the configuration and the project directory, what
the phases have made of them so far, and the diagnostics.

* `takeEntities`, `takeBatch`: what is taken is gone;
* `BuildError.chain`: the causes of a failure, outermost first.
-/

namespace SchemaClass

/-- Why a build fails. -/
inductive BuildError where
  | generate (e : GenerateError)
  /-- Something is asked for before the phase that makes it has run. -/
  | notMade (what phase : String)
  /-- There are diagnostics that are errors. -/
  | findings (count : Nat)
  | io (e : IoError)
  | other (message : String)
  /-- A failure with what was being done. -/
  | during (what : String) (e : BuildError)
  deriving Repr

namespace BuildError

/-- The causes of a failure, outermost first. -/
def chain : BuildError → List String
  | generate e => [e.message]
  | notMade what phase => [s!"{what} not available; the {phase} phase has not run"]
  | findings count => [s!"document has {count} error(s)"]
  | io e => [e.message]
  | other message => [message]
  | during what e => what :: e.chain

/-- The failure of generation at the end of the chain. -/
def generateError? : BuildError → Option GenerateError
  | generate e => some e
  | during _ e => e.generateError?
  | _ => none

end BuildError

/-- The state of a run (`CompilationContext`). -/
structure Build where
  document : Document
  config : Config
  /-- The directory that the paths of the configuration are relative to. -/
  root : Path
  /-- Made by conversion, used up by placement. -/
  entities : Option (List Entity) := none
  /-- Made by placement. -/
  batch : Option Batch := none
  diagnostics : List Diagnostic := []
  deriving DecidableEq, Repr

namespace Build

/-- Where the class files go. -/
def outputDirectory (b : Build) : Path := b.config.outputPath b.root

/-- The number of diagnostics of a severity. -/
def count (b : Build) (severity : Severity) : Nat := Diagnostic.count severity b.diagnostics

def hasErrors (b : Build) : Bool := b.count .error != 0

def hasWarnings (b : Build) : Bool := b.count .warning != 0

def warnings (b : Build) : List Diagnostic := b.diagnostics.filter (·.severity == .warning)

/-- Adds a diagnostic. -/
def report (b : Build) (d : Diagnostic) : Build := { b with diagnostics := b.diagnostics ++ [d] }

/-- What is said when entities are missing. -/
def noEntities : BuildError := .notMade "entities" "convert"

/-- What is said when the batch is missing. -/
def noBatch : BuildError := .notMade "batch" "place"

/-- Takes the entities out of a build (`take_entities`). -/
def takeEntities (b : Build) : Build × Except BuildError (List Entity) :=
  match b.entities with
  | some es => ({ b with entities := none }, .ok es)
  | none => (b, .error noEntities)

/-- Takes the batch out of a build (`take_batch`). -/
def takeBatch (b : Build) : Build × Except BuildError Batch :=
  match b.batch with
  | some batch => ({ b with batch := none }, .ok batch)
  | none => (b, .error noBatch)

end Build

end SchemaClass
