import SchemaClass.Scalar
/-!
# Schema documents

What a schema declares: models, each with fields.  A field refers to its type by name; whether that
is a scalar, an enum or a model shows in its kind and in the presence of a relation name, which
need not agree.
-/

namespace SchemaClass

/-- What a field says that its type refers to. -/
inductive FieldKind where
  /-- A built-in scalar. -/
  | scalar
  /-- An enum that is declared elsewhere. -/
  | enum
  /-- Another model. -/
  | object
  deriving DecidableEq, Repr

namespace FieldKind

def name : FieldKind → String
  | scalar => "scalar"
  | enum => "enum"
  | object => "object"

end FieldKind

/-- One field of a model, as declared (`RawField`). -/
structure Field where
  name : String
  kind : FieldKind := .scalar
  /-- The declared type: the name of a scalar, an enum or a model. -/
  baseType : Option String := none
  isList : Bool := false
  /-- Present on relations, whatever the name is. -/
  relationName : Option String := none
  deriving DecidableEq, Repr

namespace Field

def isRelation (f : Field) : Bool := f.relationName.isSome

def isEnum (f : Field) : Bool := f.kind == .enum

end Field

/-- One model, as declared (`RawModel`). -/
structure Model where
  name : String
  fields : List Field := []
  deriving DecidableEq, Repr

/-- The first field of a name. -/
def Model.field? (m : Model) (name : String) : Option Field := m.fields.find? (·.name == name)

/-- Every model of one run, in the order of declaration. -/
structure Document where
  models : List Model
  deriving DecidableEq, Repr

namespace Document

/-- The first model of a name. -/
def model? (d : Document) (name : String) : Option Model := d.models.find? (·.name == name)

def hasModel (d : Document) (name : String) : Bool := (d.model? name).isSome

theorem hasModel_iff {d : Document} {name : String} :
    d.hasModel name = true ↔ ∃ m ∈ d.models, m.name = name := by
  simp [hasModel, model?]

end Document

end SchemaClass
