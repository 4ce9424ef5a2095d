import SchemaClass.Mismatch
import SchemaClass.Text.Cursor
/-!
# What can be wrong with a JSON text

A fault names its cause and how many bytes had been read when it was noticed.  A fault about the
next character counts the first byte of that character as read.
-/

namespace SchemaClass.Json

/-- Why a JSON text is refused. -/
inductive Cause where
  | endInValue
  | endInList
  | endInObject
  | endInString
  | noColon
  | noListSeparator
  | noObjectSeparator
  | noWord
  | noValue
  | badEscape
  | badNumber
  | numberTooLarge
  | controlCharacter
  | keyNotString
  | loneSurrogate
  | halfSurrogatePair
  | trailingComma
  | trailingText
  | mismatch (m : Mismatch)
  deriving DecidableEq, Repr

/-- How floating point numbers are written in messages about JSON. -/
def floatFormat : FloatFormat := .compact

/-- The text of a cause. -/
def Cause.text : Cause → String
  | endInValue => "EOF while parsing a value"
  | endInList => "EOF while parsing a list"
  | endInObject => "EOF while parsing an object"
  | endInString => "EOF while parsing a string"
  | noColon => "expected `:`"
  | noListSeparator => "expected `,` or `]`"
  | noObjectSeparator => "expected `,` or `\x7d`"
  | noWord => "expected ident"
  | noValue => "expected value"
  | badEscape => "invalid escape"
  | badNumber => "invalid number"
  | numberTooLarge => "number out of range"
  | controlCharacter => "control character (\\u0000-\\u001F) found while parsing a string"
  | keyNotString => "key must be a string"
  | loneSurrogate => "lone leading surrogate in hex escape"
  | halfSurrogatePair => "unexpected end of hex escape"
  | trailingComma => "trailing comma"
  | trailingText => "trailing characters"
  | mismatch m => m.text floatFormat

/-- A cause and the number of bytes read when it was noticed. -/
structure Fault where
  cause : Cause
  read : Nat
  deriving DecidableEq, Repr

/-- Line and column of a fault in the text that was read. -/
def Fault.lineColumn (f : Fault) (text : List Char) : Nat × Nat := Text.lineColumn text f.read

/-- The message of a fault in the text that was read. -/
def Fault.message (f : Fault) (text : List Char) : String :=
  let (line, column) := f.lineColumn text
  f.cause.text ++ s!" at line {line} column {column}"

/-- A reader of part of a text: the value read and what is left. -/
abbrev Reader (α : Type) := Text.Cursor → Except Fault (α × Text.Cursor)

/-- Refuses what has been read so far. -/
def failHere {α : Type} (c : Text.Cursor) (cause : Cause) : Except Fault α :=
  .error ⟨cause, c.read⟩

/-- Refuses the next character. -/
def failAhead {α : Type} (c : Text.Cursor) (cause : Cause) : Except Fault α :=
  .error ⟨cause, c.ahead⟩

end SchemaClass.Json
