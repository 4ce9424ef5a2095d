import SchemaClass.Tag
/-!
# Decorators

How a tag is written in front of a class or a property.

* `escape`: a quote and a backslash inside a string literal are marked by a backslash;
* `Decorator.ofTag`: the decorator of a tag.
-/

namespace SchemaClass.Source

/-- A text inside a string literal. -/
def escape : List Char → List Char
  | [] => []
  | c :: cs => if c = '\\' || c = '"' then '\\' :: c :: escape cs else c :: escape cs

/-- A string literal. -/
def literal (s : String) : String := "\"" ++ String.ofList (escape s.toList) ++ "\""

/-- A value inside an object (`render_value`). -/
def valueText : TagValue → String
  | .boolean b => if b then "true" else "false"
  | .identifier name => name
  | .text s => literal s
  | .deferred name => "() => " ++ name

/-- A member of an object. -/
def memberText (m : String × TagValue) : String := m.1 ++ ": " ++ valueText m.2

/-- An argument of a decorator (`render_arg`). -/
def argumentText : Argument → String
  | .identifier name => name
  | .object [] => "\x7b\x7d"
  | .object members => "\x7b " ++ ", ".intercalate (members.map memberText) ++ " \x7d"

/-- A decorator with the texts of its arguments. -/
structure Decorator where
  name : String
  arguments : List String := []
  deriving DecidableEq, Repr

/-- The decorator of a tag (`from_tag`). -/
def Decorator.ofTag (t : Tag) : Decorator := ⟨t.name, t.arguments.map argumentText⟩

/-- How a decorator is written. -/
def Decorator.text (d : Decorator) : String :=
  "@" ++ d.name ++ "(" ++ ", ".intercalate d.arguments ++ ")"

end SchemaClass.Source
