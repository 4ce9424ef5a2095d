import SchemaClass.Mismatch
import SchemaClass.Text.Position
/-!
# What can be wrong with a configuration

Either the text is no TOML at all, or a value in it is not of the wanted shape.  Only the second
kind has a text and a place.
-/

namespace SchemaClass.Config

/-- Values that can be given to a variant, which takes none of them. -/
inductive Payload where
  | string
  | integer
  | float
  | boolean
  | moment
  deriving DecidableEq, Repr

def Payload.name : Payload → String
  | string => "string"
  | integer => "integer"
  | float => "float"
  | boolean => "boolean"
  | moment => "datetime"

/-- Why a value is refused. -/
inductive Cause where
  | mismatch (m : Mismatch)
  /-- A variant is neither a name nor a table with one. -/
  | noVariant
  /-- A table for a variant has no key. -/
  | noKey
  /-- A table for a variant has more than one key. -/
  | moreKeys
  /-- A variant is given a list that is not empty. -/
  | fullList
  /-- A variant is given a table that is not empty. -/
  | fullTable
  /-- A variant is given a simple value. -/
  | payload (p : Payload)
  deriving DecidableEq, Repr

/-- How floating point numbers are written in messages about a configuration. -/
def floatFormat : FloatFormat := .plain

def Cause.text : Cause → String
  | mismatch m => m.text floatFormat
  | noVariant => "wanted string or table"
  | noKey => "wanted exactly 1 element, found 0 elements"
  | moreKeys => "wanted exactly 1 element, more than 1 element"
  | fullList => "expected empty array"
  | fullTable => "expected empty table"
  | payload p => s!"expected table, found {p.name}"

/-- What is wrong with a text that should be a configuration. -/
inductive Fault where
  | noToml
  | shape (cause : Cause) (span : Text.Span)
  deriving DecidableEq, Repr

end SchemaClass.Config
