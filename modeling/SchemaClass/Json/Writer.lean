/-!
# Writing JSON

The compact form of JSON, without blanks, as `serde_json` writes it.  In a string only quotes,
backslashes and control characters are escaped, by their short escapes where they have one.

* `writeText`, `writeBoolean`, `writeOption`: simple values;
* `writeList`, `writeObject`: items between commas.
-/

namespace SchemaClass.Json

/-- One character of a string. -/
def writeChar (x : Char) : List Char :=
  match x with
  | '"' => ['\\', '"']
  | '\\' => ['\\', '\\']
  | '\x08' => ['\\', 'b']
  | '\x0c' => ['\\', 'f']
  | '\n' => ['\\', 'n']
  | '\r' => ['\\', 'r']
  | '\t' => ['\\', 't']
  | x =>
    if x.toNat < 0x20 then
      ['\\', 'u', '0', '0', Nat.digitChar (x.toNat / 16), Nat.digitChar (x.toNat % 16)]
    else [x]

/-- A string between quotes. -/
def writeText (s : String) : List Char := '"' :: (s.toList.flatMap writeChar ++ ['"'])

def writeBoolean (b : Bool) : List Char :=
  if b then ['t', 'r', 'u', 'e'] else ['f', 'a', 'l', 's', 'e']

/-- A value that may be absent. -/
def writeOption {α : Type} (write : α → List Char) : Option α → List Char
  | none => ['n', 'u', 'l', 'l']
  | some a => write a

/-- Items between commas. -/
def commas : List (List Char) → List Char
  | [] => []
  | item :: items => item ++ items.flatMap (',' :: ·)

def writeList {α : Type} (write : α → List Char) (as : List α) : List Char :=
  '[' :: (commas (as.map write) ++ [']'])

/-- An object with the values of its keys. -/
def writeObject (members : List (String × List Char)) : List Char :=
  '\x7b' :: (commas (members.map fun (key, value) => writeText key ++ ':' :: value) ++ ['\x7d'])

end SchemaClass.Json
