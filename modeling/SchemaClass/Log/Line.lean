import SchemaClass.Text.Quoted
/-!
# Log lines

What is said of a run besides its result: lines of a level from a part of the program, with a
message and named values.

* `LogSource.name`: the name of a part, which filters go by;
* `LogLine.text`: the level, set right in five columns, the message, and the values.
-/

namespace SchemaClass

/-! ## 1. Levels and sources -/

/-- How important a line is. -/
inductive LogLevel where
  | error
  | warn
  | info
  | debug
  | trace
  deriving DecidableEq, Repr

namespace LogLevel

/-- The label of a level, of five columns. -/
def label : LogLevel → String
  | error => "ERROR"
  | warn => " WARN"
  | info => " INFO"
  | debug => "DEBUG"
  | trace => "TRACE"

/-- How much a filter has to let through for a level to be seen. -/
def rank : LogLevel → Nat
  | error => 1
  | warn => 2
  | info => 3
  | debug => 4
  | trace => 5

end LogLevel

/-- The parts of the program that log. -/
inductive LogSource where
  | files
  | entities
  | classFiles
  | pipeline
  | lints
  | conversion
  | placement
  | resolution
  | classes
  | generation
  | checking
  deriving DecidableEq, Repr

/-- The name of a part, from the outermost part that holds it on. -/
def LogSource.name : LogSource → String
  | files => "kiln_core::file"
  | entities => "kiln_codegen::convert::entity"
  | classFiles => "kiln_codegen::generation::class_file"
  | pipeline => "kiln_codegen::pipeline::runner"
  | lints => "kiln_codegen::pipeline::phases::validate"
  | conversion => "kiln_codegen::pipeline::phases::convert"
  | placement => "kiln_codegen::pipeline::phases::place"
  | resolution => "kiln_codegen::pipeline::phases::resolve"
  | classes => "kiln_codegen_typescript::generator"
  | generation => "kiln::commands::generate"
  | checking => "kiln::commands::check"

/-! ## 2. Lines -/

/-- One line, with the texts of its values. -/
structure LogLine where
  source : LogSource
  level : LogLevel
  message : String
  values : List (String × String) := []
  deriving DecidableEq, Repr

/-- A value that is shown as it is. -/
def plainValue (name value : String) : String × String := (name, value)

/-- A value that is shown between quotes. -/
def quotedValue (name value : String) : String × String := (name, Text.Quoted.quote value)

/-- A number. -/
def countValue (name : String) (count : Nat) : String × String := (name, toString count)

namespace LogLine

/-- One character of a message.  Control characters that a terminal could obey are spelled by
number. -/
def harmless (c : Char) : String :=
  if c = '\x07' then "\\x07"
  else if c = '\x08' then "\\x08"
  else if c = '\x0c' then "\\x0c"
  else if c = '\x1b' then "\\x1b"
  else if c = '\x7f' then "\\x7f"
  else if 0x80 ≤ c.toNat && c.toNat ≤ 0x9F then Text.Quoted.byNumber c
  else c.toString

/-- The name under which the message of a line can be asked for, as if it were a value. -/
def messageName : String := "message"

/-- Whether a line has a value of a name. -/
def hasValue (l : LogLine) (name : String) : Bool :=
  name == messageName || l.values.any (·.1 == name)

def text (l : LogLine) : String :=
  l.level.label ++ " " ++ String.join (l.message.toList.map harmless) ++
    String.join (l.values.map fun (name, value) => s!" {name}={value}")

end LogLine

end SchemaClass
