import SchemaClass.Document.Basic
import SchemaClass.Path.Basic
import SchemaClass.Tag
/-!
# Entities

A converted model: one class to be generated, with the types of its properties already in the
target language.
-/

namespace SchemaClass

/-- A converted field (`Field`). -/
structure Property where
  name : String
  /-- The type in the target language, with the marker of a list. -/
  type : String
  kind : FieldKind
  tags : List Tag
  deriving DecidableEq, Repr

/-- A converted model. -/
structure Entity where
  /-- The name of the model. -/
  name : String
  properties : List Property
  /-- The other models that it refers to, in the order of first reference. -/
  relations : List String
  /-- The enums that it refers to, in the order of first reference. -/
  enums : List String
  tags : List Tag
  deriving DecidableEq, Repr

namespace Entity

/-- The name of the class (`class_name`). -/
def className (e : Entity) : String := Naming.pascal e.name

/-- The first property of a name. -/
def property? (e : Entity) (name : String) : Option Property := e.properties.find? (·.name == name)

/-- Whether an entity refers to another (`relates_to`). -/
def relatesTo (e : Entity) (name : String) : Bool := e.relations.contains name

end Entity

/-- What keeps entities from being generated.  Each of these ends a run as a whole: files of a run
that fails mean nothing. -/
inductive GenerateError where
  | missingType (model field : String)
  | unknownRelation (model field target : String)
  | pathCollision (path : Path) (first second : String)
  | unplaced (entity : String)
  | missingTarget (entity target : String)
  | unresolvedImport (entity origin : String)
  | missingToken (entity : String)
  deriving DecidableEq, Repr

def GenerateError.message : GenerateError → String
  | missingType model field => s!"field '{model}.{field}' has no base type"
  | unknownRelation model field target =>
    s!"field '{model}.{field}' relates to '{target}', which is not part of the batch"
  | pathCollision path first second =>
    s!"'{first}' and '{second}' would both be written to '{path.text}'"
  | unplaced entity =>
    s!"'{entity}' has no output location; place every file before resolving imports"
  | missingTarget entity target =>
    s!"'{entity}' imports '{target}', but the batch has no output file for it"
  | unresolvedImport entity origin =>
    s!"'{entity}' still imports from placeholder '{origin}'; resolve imports before rendering"
  | missingToken entity => s!"template for '{entity}' has no imports placeholder"

end SchemaClass
