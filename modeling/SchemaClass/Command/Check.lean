import SchemaClass.Command.Generate
/-!
# Checking a project

A check does all that generation does up to the texts of the files, and reports what it has found.
-/

namespace SchemaClass.Command

variable {m : Type → Type} [Monad m] [Disk m]

/-- What is logged of a document. -/
def documentLine (d : Document) : LogLine where
  source := .checking
  level := .debug
  message := "document loaded"
  values := [countValue "models" d.models.length]

/-- The report of a build of a document. -/
def checkReport (configPath : Path) (d : Document) (b : Build) : CheckReport where
  configPath := configPath
  diagnostics := b.diagnostics
  models := d.models.map (·.summary)

/-- Checks a document in a project. -/
def checkDocument (configPath : Path) (project : Project) (d : Document) :
    Except CommandError Result := do
  let (b, log) ← (Pipeline.typeScript.runLogged d project.config project.root).mapError
    (buildFailure "Validation failed")
  let report := checkReport configPath d b
  if report.isValid then return { log := documentLine d :: log, report := report.lines }
  else throw (.failed [])

/-- Checks a project as the command line asks (`CheckCommand.run`). -/
def check (o : CheckOptions) : m (Except CommandError Result) := do
  let configPath := o.config.getD defaultConfig
  match ← Project.load configPath none with
  | .error e => return .error e
  | .ok project =>
    match ← Document.load (project.config.inputPath project.root) with
    | .error e => return .error (.schema e)
    | .ok document => return checkDocument configPath project document

end SchemaClass.Command
