import SchemaClass.Build.Pipeline
import SchemaClass.Command.Project
import SchemaClass.Report
/-!
# Generating class files

Nothing is written before every file has its text.  A run that only shows the files leaves the disk
alone; otherwise they are written in order until one fails.

* `writeOutputs`: writes files in order;
* `generate`: the command.
-/

namespace SchemaClass

/-- Whether files are written or only shown. -/
inductive WriteMode where
  | persist
  | preview
  deriving DecidableEq, Repr

def WriteMode.ofDryRun (dryRun : Bool) : WriteMode := if dryRun then preview else persist

/-- What has become of files (`GenerateResult`). -/
structure Generated where
  written : List Path := []
  previewed : List OutputFile := []
  deriving DecidableEq, Repr

variable {m : Type → Type} [Monad m] [Disk m]

/-- Writes files in order, until one fails. -/
def writeOutputs : List OutputFile → m (Except IoError Unit)
  | [] => return .ok ()
  | f :: fs => do
    match ← Disk.writeFile f.path f.content with
    | .error e => return .error e
    | .ok () => writeOutputs fs

/-- Writes or shows files. -/
def deliver (mode : WriteMode) (files : List OutputFile) : m (Except IoError Generated) := do
  match mode with
  | .preview => return .ok { previewed := files }
  | .persist =>
    match ← writeOutputs files with
    | .error e => return .error e
    | .ok () => return .ok { written := files.map (·.path) }

/-- Writes or shows the files of a batch. -/
def Batch.generate (mode : WriteMode) (b : Batch) : m (Except BuildError Generated) := do
  match b.outputs with
  | .error e => return .error e
  | .ok files =>
    match ← deliver mode files with
    | .error e => return .error (.io e)
    | .ok g => return .ok g

/-! ## The command -/

namespace Command

/-- The lines of a command that has ended well: its log and its report. -/
structure Result where
  log : List LogLine
  report : List ReportLine
  deriving DecidableEq, Repr

/-- A failure of the build while the command was doing something. -/
def buildFailure (what : String) (e : BuildError) : CommandError :=
  .failed (BuildError.during what e).chain

/-- The configuration with what the command line says; its paths start from the working
directory `here`. -/
def override (here : Path) (o : GenerateOptions) (c : Config) : Config :=
  { c with
    input := (o.input.map (Path.absolute here)).getD c.input
    output := (o.output.map (Path.absolute here)).getD c.output
    layout := o.layout.getD c.layout
    swagger := c.swagger || o.swagger
    dryRun := c.dryRun || o.dryRun }

/-- What is logged of a configuration. -/
def configLine (c : Config) (root : Path) : LogLine where
  source := .generation
  level := .debug
  message := "resolved configuration"
  values := [plainValue "input" (c.inputPath root).text,
    plainValue "output" (c.outputPath root).text, plainValue "layout" c.layout.name]

/-- What is logged of the files that are generated. -/
def deliveryLines (g : Generated) : List LogLine :=
  let counts := [countValue "written" g.written.length, countValue "previewed" g.previewed.length]
  let file (text : String) : LogLine := { source := .files, level := .info, message := text }
  g.written.map (fun p => file ("Generate " ++ p.text)) ++
    g.previewed.map (fun f => file ("[dry-run] Generate " ++ f.path.text)) ++
    [{ source := .classes, level := .debug, message := "generated typescript classes",
       values := counts },
     { source := .generation, level := .info, message := "generation finished", values := counts }]

/-- The report of files that are generated from a build. -/
def generateReport (b : Build) (g : Generated) : GenerateReport where
  warnings := b.warnings.map (·.text)
  outputDirectory := b.outputDirectory
  written := g.written
  previewed := g.previewed

/-- Generates the files of a document. -/
def generateFrom (project : Project) (document : Document) : m (Except CommandError Result) := do
  match Pipeline.typeScript.runLogged document project.config project.root with
  | .error e => return .error (buildFailure "Pipeline failed" e)
  | .ok (b, log) =>
    match b.takeBatch.2 with
    | .error e => return .error (.failed e.chain)
    | .ok batch =>
      match ← batch.generate (.ofDryRun project.config.dryRun) with
      | .error e => return .error (buildFailure "Failed to generate code" e)
      | .ok g =>
        let opening := configLine project.config project.root
        return .ok ⟨opening :: log ++ deliveryLines g, (generateReport b g).lines⟩

/-- Generates class files as the command line asks, from the working directory `here`
(`GenerateCommand.run`). -/
def generate (here : Path) (o : GenerateOptions) : m (Except CommandError Result) := do
  match ← Project.load (o.config.getD defaultConfig) o.input with
  | .error e => return .error e
  | .ok project =>
    let config := override here o project.config
    match ← Document.load (config.inputPath project.root) with
    | .error e => return .error (.schema e)
    | .ok document => generateFrom { project with config } document

end Command

end SchemaClass
