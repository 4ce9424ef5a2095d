import SchemaClass.Entity.Basic
import SchemaClass.Import.Basic
import SchemaClass.Source.ClassDeclaration
/-!
# Templates of class files

A template writes the body of a file, with a token where the import statements go, and the
statements themselves.

* `ImportRecord.statement`: the import of symbols from a module;
* `Template.classFile`: the file of a decorated class.
-/

namespace SchemaClass

/-- The statement of a record (`Import.statement`).  The name of the module stands between quotes as
it is. -/
def ImportRecord.statement (r : ImportRecord) : String :=
  let origin := "\"" ++ r.origin ++ "\";"
  if r.symbols.isEmpty then "import " ++ origin
  else "import \x7b " ++ ", ".intercalate r.symbols ++ " \x7d from " ++ origin

/-- The token that import statements replace (`IMPORTS_PLACEHOLDER`). -/
def importsToken : String := "#!\x7bIMPORTS\x7d"

/-- How the file of an entity is written (`FileTemplate`). -/
structure Template where
  body : Entity → String
  statement : ImportRecord → String

namespace Source

/-- The declaration of a property. -/
def PropertyDeclaration.ofProperty (p : Property) : PropertyDeclaration :=
  ⟨p.name, p.type, p.tags.map Decorator.ofTag⟩

/-- The declaration of an entity. -/
def ClassDeclaration.ofEntity (e : Entity) : ClassDeclaration :=
  ⟨e.className, e.tags.map Decorator.ofTag, e.properties.map PropertyDeclaration.ofProperty⟩

end Source

open Source in
/-- Imports, an empty line and the class (`ClassTs`). -/
def Template.classFile : Template where
  body := fun e =>
    ((ClassDeclaration.ofEntity e).write (({} : Builder).line importsToken).blank).build
  statement := ImportRecord.statement

end SchemaClass
