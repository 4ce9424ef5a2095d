import SchemaClass.Source.Builder
import SchemaClass.Source.Decorator
/-!
# Class declarations

An exported class with decorated properties.  An empty line stands between two properties if one of
them is decorated.

* `ClassDeclaration.write`: writes a class at the current depth.
-/

namespace SchemaClass.Source

/-- A property of a class (`Property`). -/
structure PropertyDeclaration where
  name : String
  type : String
  decorators : List Decorator := []
  deriving DecidableEq, Repr

/-- A class (`Class`). -/
structure ClassDeclaration where
  name : String
  decorators : List Decorator := []
  properties : List PropertyDeclaration := []
  deriving DecidableEq, Repr

/-- Writes decorators, one on a line. -/
def writeDecorators (b : Builder) (ds : List Decorator) : Builder :=
  b.each ds fun b d => b.line d.text

namespace PropertyDeclaration

def isDecorated (p : PropertyDeclaration) : Bool := !p.decorators.isEmpty

/-- The line of a property. -/
def text (p : PropertyDeclaration) : String := p.name ++ ": " ++ p.type ++ ";"

/-- Writes a property below its decorators. -/
def write (b : Builder) (p : PropertyDeclaration) : Builder :=
  (writeDecorators b p.decorators).line p.text

/-- Writes properties behind one that is there. -/
def writeBehind (previous : PropertyDeclaration) (b : Builder) :
    List PropertyDeclaration → Builder
  | [] => b
  | p :: ps =>
    let b := if previous.isDecorated || p.isDecorated then b.blank else b
    writeBehind p (write b p) ps

/-- Writes the properties of a class. -/
def writeAll (b : Builder) : List PropertyDeclaration → Builder
  | [] => b
  | p :: ps => writeBehind p (write b p) ps

end PropertyDeclaration

namespace ClassDeclaration

/-- The line that opens a class. -/
def header (c : ClassDeclaration) : String := "export class " ++ c.name ++ " \x7b"

/-- Writes a class below its decorators. -/
def write (c : ClassDeclaration) (b : Builder) : Builder :=
  (writeDecorators b c.decorators).block c.header "\x7d"
    fun b => PropertyDeclaration.writeAll b c.properties

/-- The text of a class. -/
def text (c : ClassDeclaration) : String := (c.write {}).build

end ClassDeclaration

end SchemaClass.Source
