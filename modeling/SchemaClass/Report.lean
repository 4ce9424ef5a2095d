import SchemaClass.Batch
import SchemaClass.Diagnostic
/-!
# Reports

What a command tells its user when it is done, line by line.  Warnings and errors go their own way.

* `GenerateReport.lines`: the files that were written, or those that would be;
* `CheckReport.lines`: the diagnostics, and the models of a document without errors.
-/

namespace SchemaClass

/-- One line of a report; a text may itself be of several lines (`Line`). -/
inductive ReportLine where
  | heading (text : String)
  | bullet (text : String)
  | added (text : String)
  | warning (text : String)
  | error (text : String)
  | rule (label : String)
  | text (text : String)
  | blank
  deriving DecidableEq, Repr

namespace ReportLine

/-- Lines that are kept apart from the others. -/
def isDiagnostic : ReportLine → Bool
  | warning _ | error _ => true
  | _ => false

def shown : ReportLine → String
  | heading s => s ++ ":"
  | bullet s => "  - " ++ s
  | added s => "  + " ++ s
  | rule s => "── " ++ s ++ " ──"
  | warning s | error s | text s => s
  | blank => ""

end ReportLine

/-- A number of things, with the word for them (`plural`). -/
def counted (count : Nat) (word : String) : String :=
  toString count ++ " " ++ word ++ (if count = 1 then "" else "s")

/-! ## 1. Generation -/

/-- What generation has done. -/
structure GenerateReport where
  warnings : List String := []
  outputDirectory : Path
  written : List Path := []
  previewed : List OutputFile := []

namespace GenerateReport

/-- The path of a file as it is shown: from the output directory on, if it is there. -/
def shownPath (r : GenerateReport) (p : Path) : String :=
  ((p.relativeTo? r.outputDirectory).getD p).text

/-- The files that were shown instead of written. -/
def previewLines (r : GenerateReport) : List ReportLine :=
  r.previewed.flatMap (fun f => [.rule f.path.text, .text f.content]) ++
    [.rule "Summary", .text (counted r.previewed.length "file" ++ " would be generated")]

/-- The files that were written. -/
def writtenLines (r : GenerateReport) : List ReportLine :=
  .heading ("Generated " ++ counted r.written.length "file" ++ " in " ++ r.outputDirectory.text) ::
    r.written.map fun p => .added (r.shownPath p)

def lines (r : GenerateReport) : List ReportLine :=
  r.warnings.map .warning ++ (if r.warnings.isEmpty then [] else [.blank]) ++
    if r.previewed.isEmpty then r.writtenLines else r.previewLines

end GenerateReport

/-! ## 2. Checking -/

/-- A model in numbers. -/
structure ModelSummary where
  name : String
  fields : Nat
  relations : Nat
  deriving DecidableEq, Repr

def Model.summary (m : Model) : ModelSummary :=
  ⟨m.name, m.fields.length, m.fields.countP (·.isRelation)⟩

/-- What a check has found. -/
structure CheckReport where
  configPath : Path
  diagnostics : List Diagnostic := []
  models : List ModelSummary := []

namespace CheckReport

/-- Whether no diagnostic is an error (`is_valid`). -/
def isValid (r : CheckReport) : Bool := !r.diagnostics.any (·.severity == .error)

/-- A diagnostic, with its location on a line of its own. -/
def diagnosticText (d : Diagnostic) : String :=
  d.severity.name ++ ": " ++ d.message ++
    match d.location with
    | some location => "\n  --> " ++ location
    | none => ""

def diagnosticLine (d : Diagnostic) : ReportLine :=
  match d.severity with
  | .error => .error (diagnosticText d)
  | .warning => .warning (diagnosticText d)
  | .info => .text (diagnosticText d)

def modelLine (m : ModelSummary) : ReportLine :=
  .bullet s!"{m.name} ({m.fields} fields, {m.relations} relations)"

/-- The models of a valid document. -/
def modelLines (r : CheckReport) : List ReportLine :=
  [.text ("✓ " ++ r.configPath.text ++ " is valid"), .blank,
    .heading (counted r.models.length "model")] ++ r.models.map modelLine

def lines (r : CheckReport) : List ReportLine :=
  r.diagnostics.map diagnosticLine ++ (if r.diagnostics.isEmpty then [] else [.blank]) ++
    if r.isValid then r.modelLines else []

end CheckReport

end SchemaClass
