import SchemaClass.Config.Reader
import SchemaClass.SchemaError
/-!
# Configurations from texts

A text is a configuration if it has the form, names two modules and names a document.  The label of
an empty setting is put on the first line that looks like an assignment to its key.

* `keySpan?`: that place; every line counts as one byte longer than what is left of it without its
  line end;
* `Config.parse`: the configuration of a text.
-/

namespace SchemaClass.Config

open Text (Span byteLength trimStart isBlank dropToken?)

/-! ## 1. The place of a key -/

/-- A line without the carriage return that belongs to its line end. -/
def dropReturn (line : List Char) : List Char :=
  if line.getLast? = some '\r' then line.dropLast else line

/-- The lines of a text without their ends. -/
def lines (text : List Char) : List (List Char) :=
  let pieces := text.splitOn '\n'
  pieces.dropLast.map dropReturn ++ pieces.getLast?.toList

/-- Whether a line begins with a key and an equals sign, with any blanks around the key. -/
def assigns (key line : List Char) : Bool :=
  (dropToken? key (trimStart line)).any fun rest => (trimStart rest).head? == some '='

/-- The place of a key in lines that begin at `offset`. -/
def findKey (key : List Char) : (offset : Nat) → List (List Char) → Option Span
  | _, [] => none
  | offset, line :: rest =>
    if assigns key line then
      some ⟨offset + byteLength (line.takeWhile isBlank), byteLength key⟩
    else findKey key (offset + byteLength line + 1) rest

/-- The place of the first assignment to a key (`find_toml_key_span`). -/
def keySpan? (text : List Char) (key : String) : Option Span :=
  findKey key.toList 0 (lines text)

/-! ## 2. The configuration -/

/-- The first setting that is empty.  The modules must not be blank. -/
def emptySetting? (c : Config) : Option String :=
  if Text.isBlankText c.enumModule.toList then some "enum_module"
  else if Text.isBlankText c.decoratorModule.toList then some "decorator_module"
  else if c.input.chars.isEmpty then some "input"
  else none

/-- The configuration of a text, or what is wrong with the text. -/
def ofText (text : String) : Except Problem Config := do
  let c ← (readConfig text.toList).mapError .config
  match c.emptySetting? with
  | some key => throw (.rejected (.emptySetting key) (keySpan? text.toList key))
  | none => return c

/-- The name under which the text of a configuration is known. -/
def defaultFile : String := "kiln.toml"

/-- The configuration of a text that is known as `file` (`parse_config`). -/
def parse (file text : String) : Except SchemaError Config :=
  (ofText text).mapError (.refused file text)

end SchemaClass.Config
