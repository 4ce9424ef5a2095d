import SchemaClass.Document.Basic
/-!
# Diagnostics

Findings about a document that is generated all the same, unless one of them is an error.

* `Lint`: a check that names its findings, never failing;
* `Lint.emptyModel`, `Lint.selfRelation`, `Lint.relationKind`: the lints of every run.
-/

namespace SchemaClass

/-- How serious a finding is. -/
inductive Severity where
  | error
  | warning
  | info
  deriving DecidableEq, Repr

def Severity.name : Severity → String
  | error => "error"
  | warning => "warning"
  | info => "info"

/-- A finding, with the phase that reports it. -/
structure Diagnostic where
  severity : Severity
  phase : String
  message : String
  /-- The model or the field that it is about. -/
  location : Option String := none
  deriving DecidableEq, Repr

namespace Diagnostic

/-- A diagnostic on one line. -/
def text (d : Diagnostic) : String :=
  match d.location with
  | some location => s!"{d.severity.name}: {d.message} (at {location})"
  | none => s!"{d.severity.name}: {d.message}"

/-- The number of diagnostics of a severity. -/
def count (severity : Severity) (ds : List Diagnostic) : Nat :=
  ds.countP (·.severity == severity)

end Diagnostic

/-! ## Lints -/

/-- The name of the phase that lints report under. -/
def lintPhase : String := "validate"

/-- A check of a document. -/
structure Lint where
  name : String
  check : Document → List Diagnostic

namespace Lint

/-- How a field is named in findings. -/
def fieldLocation (m : Model) (f : Field) : String := m.name ++ "." ++ f.name

/-- A lint that looks at each field. -/
def ofFields (name : String) (check : Model → Field → Option Diagnostic) : Lint where
  name := name
  check := fun d => d.models.flatMap fun m => m.fields.filterMap (check m)

/-- Models without fields (`EmptyModelLint`). -/
def emptyModel : Lint where
  name := "empty-model"
  check := fun d => (d.models.filter (·.fields.isEmpty)).map fun m =>
    ⟨.warning, lintPhase, s!"model '{m.name}' has no fields", some m.name⟩

/-- Relations of a model to itself, for which nothing is imported (`SelfRelationLint`). -/
def selfRelation : Lint := ofFields "self-relation" fun m f =>
  let location := fieldLocation m f
  if f.isRelation && f.baseType == some m.name then
    some ⟨.info, lintPhase, s!"'{location}' relates to its own model; no import is generated",
      some location⟩
  else none

/-- Fields whose kind and relation name disagree (`RelationKindLint`).  The relation name counts. -/
def relationKind : Lint := ofFields "relation-kind" fun m f =>
  let location := fieldLocation m f
  match f.kind, f.isRelation with
  | .object, false =>
    some ⟨.warning, lintPhase,
      s!"'{location}' is an object field without a relation name; its type is not imported",
      some location⟩
  | .scalar, true | .enum, true =>
    some ⟨.warning, lintPhase,
      s!"'{location}' has a relation name but is not an object field; treating it as a relation",
      some location⟩
  | _, _ => none

/-- The lints of every run. -/
def standard : List Lint := [emptyModel, selfRelation, relationKind]

end Lint

end SchemaClass
