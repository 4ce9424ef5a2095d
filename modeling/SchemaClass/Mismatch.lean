import SchemaClass.Number.Format
import SchemaClass.Text.Quoted
/-!
# Data of the wrong shape

What a reader of structured data says of a value that is not of the shape it wants.  The formats
that carry the data differ only in how they write a floating point number.
-/

namespace SchemaClass

/-- A value that stands where another was wanted. -/
inductive Found where
  | null
  | boolean (value : Bool)
  | integer (value : Int)
  | float (value : Binary64)
  | string (value : String)
  | sequence
  | map
  deriving DecidableEq, Repr

/-- How a message names a value. -/
def Found.text (format : FloatFormat) : Found → String
  | .null => "null"
  | .boolean b => s!"boolean `{b}`"
  | .integer n => s!"integer `{n}`"
  | .float x => "floating point `" ++ format.text x ++ "`"
  | .string s => "string " ++ Text.Quoted.quote s
  | .sequence => "sequence"
  | .map => "map"

/-- The ways in which a value can miss the shape of a record, a variant or a simple type. -/
inductive Mismatch where
  /-- A value of another type. -/
  | type (found : Found) (expected : String)
  /-- A list with too few elements for the fields of a record. -/
  | length (count : Nat) (expected : String)
  | unknownVariant (name : String) (known : List String)
  | unknownField (name : String) (known : List String)
  | missingField (name : String)
  | duplicateField (name : String)
  deriving DecidableEq, Repr

namespace Mismatch

/-- A list of names from which one should have been chosen. -/
def choice (names : List String) : String :=
  match names.map (fun n => s!"`{n}`") with
  | [a] => a
  | [a, b] => s!"{a} or {b}"
  | quoted => "one of " ++ ", ".intercalate quoted

/-- A record as a message names it when a list is too short for it. -/
def elements (record : String) (count : Nat) : String :=
  s!"{record} with {count} element" ++ (if count = 1 then "" else "s")

def text (format : FloatFormat) : Mismatch → String
  | type found expected => s!"invalid type: {found.text format}, expected {expected}"
  | length count expected => s!"invalid length {count}, expected {expected}"
  | unknownVariant name known => s!"unknown variant `{name}`, expected {choice known}"
  | unknownField name known => s!"unknown field `{name}`, expected {choice known}"
  | missingField name => s!"missing field `{name}`"
  | duplicateField name => s!"duplicate field `{name}`"

end Mismatch

end SchemaClass
