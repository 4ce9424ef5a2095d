import SchemaClass.Build.Phase
/-!
# Pipelines

A pipeline runs phases one after the other.  The first failure ends the run and is reported with the
name of its phase.

* `standard`: the phases from a document to a batch that can be rendered.
-/

namespace SchemaClass

/-- The phases of a run, in order. -/
structure Pipeline where
  phases : List Phase

namespace Pipeline

/-- Lints, conversion, placement, registration and resolution, for a target language and the
extension of its files. -/
def standard (mapper : TypeMapper) (extension : String) : Pipeline where
  phases := [.validate, .convert mapper, .place extension, .register, .resolve]

/-- The pipeline for TypeScript classes. -/
def typeScript : Pipeline := standard .typeScript "ts"

/-- Adds a phase at the end. -/
def andThen (p : Pipeline) (phase : Phase) : Pipeline := ⟨p.phases ++ [phase]⟩

/-- The names of the phases. -/
def names (p : Pipeline) : List String := p.phases.map (·.name)

/-- What is reported when a phase fails. -/
def failure (phase : Phase) (e : BuildError) : BuildError :=
  .during (phase.name ++ " phase failed") e

/-- What is logged when a phase begins. -/
def opening (phase : Phase) : LogLine where
  source := .pipeline
  level := .debug
  message := phase.description
  values := [quotedValue "phase" phase.name]

/-- Runs phases on a build; gives the last build and what has been logged. -/
def runPhases : List Phase → Build → Except BuildError (Build × List LogLine)
  | [], b => .ok (b, [])
  | phase :: phases, b =>
    match phase.run b with
    | (_, .error e) => .error (failure phase e)
    | (after, .ok ()) => do
      let (last, lines) ← runPhases phases after
      return (last, opening phase :: phase.log b after ++ lines)

/-- Runs a pipeline on a document, with its log (`Pipeline.run`). -/
def runLogged (p : Pipeline) (document : Document) (config : Config) (root : Path) :
    Except BuildError (Build × List LogLine) :=
  runPhases p.phases { document, config, root }

/-- Runs a pipeline on a document. -/
def run (p : Pipeline) (document : Document) (config : Config) (root : Path) :
    Except BuildError Build :=
  (p.runLogged document config root).map (·.1)

end Pipeline

/-- The batch of a document, all its files placed and their imports resolved. -/
def Document.batch (document : Document) (config : Config) (root : Path) :
    Except BuildError Batch := do
  let b ← Pipeline.typeScript.run document config root
  b.takeBatch.2

/-- The texts of all files of a batch. -/
def Batch.outputs (b : Batch) : Except BuildError (List OutputFile) :=
  liftGenerate (b.renderAll .classFile)

end SchemaClass
