import SchemaClass.Config.Fault
import SchemaClass.Document.Validation
import SchemaClass.IoError
import SchemaClass.Json.Fault
import SchemaClass.Path.Basic
/-!
# Refused documents and configurations

Why a document or a configuration cannot be used: its file cannot be read, its text does not have
the form, or it breaks a rule.  A label points into the text where the place is known.

* `Problem.labels`: the place of a problem, found in the text;
* `SchemaError.message`, `SchemaError.help?`, …: the parts of a report.
-/

namespace SchemaClass

open Text (Span)

/-- A remark about a place in a text. -/
structure Label where
  text : String
  span : Span
  deriving DecidableEq, Repr

/-- Rules about a text as a whole. -/
inductive Rejection where
  | bothPlaces
  | noModels
  | emptySetting (key : String)
  deriving DecidableEq, Repr

def Rejection.message : Rejection → String
  | bothPlaces => "document declares both `models` and `datamodel`; keep only one"
  | noModels => "document has no `models` list"
  | emptySetting key => s!"`{key}` cannot be empty"

/-- What is wrong with a text. -/
inductive Problem where
  /-- The text is no document. -/
  | document (fault : Json.Fault)
  /-- The text is no configuration. -/
  | config (fault : Config.Fault)
  /-- A declaration breaks a rule. -/
  | finding (f : Finding)
  /-- The text breaks a rule at a place, if one can be named. -/
  | rejected (r : Rejection) (span : Option Span)
  deriving DecidableEq, Repr

namespace Problem

def message : Problem → String
  | document _ => "failed to parse schema document"
  | config _ => "failed to parse kiln.toml"
  | finding f => f.message
  | rejected r _ => r.message

/-- The code under which a problem can be looked up. -/
def code? : Problem → Option String
  | document _ => some "kiln::parse_error"
  | config _ => some "kiln::config_error"
  | finding f => f.code?
  | rejected .. => some "kiln::validation_error"

/-- What can be done about a problem. -/
def help? : Problem → Option String
  | finding f => f.help?
  | _ => none

/-- What is written at the place of a problem. -/
def label : Problem → String
  | document _ | config _ => "parse error here"
  | finding f => f.label
  | rejected r _ => r.message

/-- The place of a problem in its text. -/
def span? (text : List Char) : Problem → Option Span
  | document fault =>
    let (line, column) := fault.lineColumn text
    (Text.offsetOf? text line column).map (⟨·, 1⟩)
  | config .noToml => none
  | config (.shape _ span) => some span
  | finding f => f.locate? text
  | rejected _ span => span

/-- The remark about the place of a problem, if it has one. -/
def labels (text : List Char) (p : Problem) : List Label :=
  ((p.span? text).map (⟨p.label, ·⟩)).toList

/-- The report of a reader, on which the problem rests. -/
def cause? (text : List Char) : Problem → Option String
  | document fault => some (fault.message text)
  | config (.shape cause _) => some cause.text
  | _ => none

end Problem

/-- Why a file cannot be used (`Error`). -/
inductive SchemaError where
  | unreadable (path : Path) (error : IoError)
  | refused (file text : String) (problem : Problem)
  deriving DecidableEq, Repr

namespace SchemaError

def message : SchemaError → String
  | unreadable path _ => s!"failed to read '{path.text}'"
  | refused _ _ p => p.message

def code? : SchemaError → Option String
  | unreadable .. => none
  | refused _ _ p => p.code?

def help? : SchemaError → Option String
  | unreadable .. => some "check the `input` path in kiln.toml"
  | refused _ _ p => p.help?

def labels : SchemaError → List Label
  | unreadable .. => []
  | refused _ text p => p.labels text.toList

/-- The name of the text that is refused. -/
def file? : SchemaError → Option String
  | unreadable .. => none
  | refused file _ _ => some file

def cause? : SchemaError → Option String
  | unreadable _ e => some e.kind
  | refused _ text p => p.cause? text.toList

end SchemaError

end SchemaClass
