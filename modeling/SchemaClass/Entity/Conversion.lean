import SchemaClass.Config.Basic
import SchemaClass.Entity.Basic
import SchemaClass.OrderedSet
/-!
# Models to entities

The type of a field is that of its scalar, the class of the model it relates to, or the name it
gives, in this order.  The flag for a relation decides, not the kind: a field with a relation name
relates to a model, and of the others those of the kind of an enum refer to one.

* `Field.elementType`: the type of a field, or of its elements if it is a list;
* `Model.relations`, `Model.enums`: what a model refers to;
* `Document.entities`: all models; the relations of all models are checked first.
-/

namespace SchemaClass

/-- What conversion is told besides the models (`ConvertOptions`). -/
structure Decoration where
  /-- Whether every field gets a tag that documents it. -/
  documentFields : Bool := false
  /-- The module that exports the decorators. -/
  module : String := "@nestjs/swagger"
  deriving DecidableEq, Repr

/-- What a configuration says about decorators. -/
def Config.decoration (c : Config) : Decoration := ⟨c.swagger, c.decoratorModule⟩

/-! ## 1. Fields -/

/-- The decorator that documents a field (`FIELD_DOC_TAG`). -/
def fieldTagName : String := "ApiProperty"

/-- The decorator that every class has (`ENTITY_TAG`). -/
def entityTagName : String := "ApiExtraModels"

namespace Field

/-- The type of a field of a given base type, without the marker of a list. -/
def elementType (mapper : TypeMapper) (f : Field) (base : String) : String :=
  match Scalar.ofName? base with
  | some s => mapper.scalar s
  | none => if f.isRelation then Naming.pascal base else base

/-- The type of a field of a given base type. -/
def targetType (mapper : TypeMapper) (f : Field) (base : String) : String :=
  if f.isList then mapper.list (f.elementType mapper base) else f.elementType mapper base

/-- How documentation marks a list. -/
def listMark (f : Field) : List (String × TagValue) :=
  if f.isList then [("isArray", .boolean true)] else []

/-- The documentation of a field of a given base type (`documentation_tag`). -/
def documentation (mapper : TypeMapper) (f : Field) (base : String) : List (String × TagValue) :=
  match Scalar.ofName? base with
  | some s => ("type", .identifier (mapper.doc s)) :: f.listMark
  | none =>
    f.listMark ++
      if f.isRelation then [("type", .deferred (Naming.pascal base))]
      else if f.isEnum then [("enum", .identifier base), ("enumName", .text base)]
      else []

/-- The tags of a field of a given base type. -/
def tags (mapper : TypeMapper) (decoration : Decoration) (f : Field) (base : String) : List Tag :=
  if decoration.documentFields then
    [{ name := fieldTagName, origin := decoration.module,
       arguments := [.object (f.documentation mapper base)] }]
  else []

/-- The property of a field in the class of `model` (`FieldConverter.convert`). -/
def property (mapper : TypeMapper) (decoration : Decoration) (model : String) (f : Field) :
    Except GenerateError Property :=
  match f.baseType with
  | none => .error (.missingType model f.name)
  | some base => .ok
    { name := f.name
      type := f.targetType mapper base
      kind := f.kind
      tags := f.tags mapper decoration base }

end Field

/-! ## 2. Models -/

namespace Model

/-- The base types of the fields that satisfy `p`. -/
def baseTypes (m : Model) (p : Field → Bool) : List String :=
  (m.fields.filter p).filterMap (·.baseType)

/-- The other models that a model relates to. -/
def relations (m : Model) : List String :=
  OrderedSet.distinct ((m.baseTypes (·.isRelation)).filter (· != m.name))

/-- The enums that a model refers to. -/
def enums (m : Model) : List String :=
  OrderedSet.distinct (m.baseTypes fun f => !f.isRelation && f.isEnum)

/-- The tags of the class itself. -/
def entityTags (decoration : Decoration) (m : Model) : List Tag :=
  [{ name := entityTagName, origin := decoration.module,
     arguments := [.identifier (Naming.pascal m.name)] }]

/-- The entity of a model (`convert_model`).  The targets of relations are not looked up. -/
def entity (mapper : TypeMapper) (decoration : Decoration) (m : Model) :
    Except GenerateError Entity := do
  let properties ← m.fields.mapM (·.property mapper decoration m.name)
  return { name := m.name, properties, relations := m.relations, enums := m.enums,
           tags := m.entityTags decoration }

end Model

/-! ## 3. Documents -/

namespace Document

/-- A relation to a model that is not in the document (`is_dangling_relation`). -/
def isDangling (d : Document) (f : Field) : Bool :=
  f.isRelation && f.baseType.any fun base => !d.hasModel base

/-- The first relation that leads nowhere. -/
def dangling? (d : Document) : Option GenerateError :=
  d.models.findSome? fun m =>
    (m.fields.find? d.isDangling).map fun f =>
      .unknownRelation m.name f.name (f.baseType.getD "")

/-- The entities of all models (`convert_models`). -/
def entities (mapper : TypeMapper) (decoration : Decoration) (d : Document) :
    Except GenerateError (List Entity) :=
  match d.dangling? with
  | some e => .error e
  | none => d.models.mapM (·.entity mapper decoration)

end Document

end SchemaClass
