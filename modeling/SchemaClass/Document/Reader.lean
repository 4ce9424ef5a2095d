import SchemaClass.Document.Basic
import SchemaClass.Json.Record
/-!
# Reading a document

The JSON form of a document: its models under `models`, either at the top or inside `datamodel`.

* `fieldRecord`, `modelRecord`, `datamodelRecord`, `envelopeRecord`: the record types of the form;
* `readEnvelope`: what a text holds, before it is decided which of the two places counts.
-/

namespace SchemaClass

open Json

/-- The kinds as a text may spell them; two of them have a second name. -/
def FieldKind.spellings : List String := ["primitive", "scalar", "enum", "object", "relation"]

/-- The kind of a spelling. -/
def FieldKind.ofSpelling? (s : String) : Option FieldKind :=
  if s = "primitive" || s = "scalar" then some .scalar
  else if s = "enum" then some .enum
  else if s = "object" || s = "relation" then some .object
  else none

/-- What has been read of a field. -/
structure Field.Draft where
  name : Option String := none
  kind : Option FieldKind := none
  baseType : Option (Option String) := none
  isList : Option Bool := none
  relationName : Option (Option String) := none

/-- What the keys of a field mean. -/
def Field.Draft.slot (d : Field.Draft) (key : String) : Slot Field.Draft :=
  if key = "name" then .of d.name readText fun v => { d with name := some v }
  else if key = "kind" then
    .of d.kind (readVariant FieldKind.spellings FieldKind.ofSpelling?)
      fun v => { d with kind := some v }
  else if key = "type" then
    .of d.baseType (readOption readText) fun v => { d with baseType := some v }
  else if key = "isList" then .of d.isList readBoolean fun v => { d with isList := some v }
  else if key = "relationName" then
    .of d.relationName (readOption readText) fun v => { d with relationName := some v }
  else .unknown

/-- The field of a draft: only the name has to be there. -/
def Field.Draft.finish (d : Field.Draft) : Except String Field :=
  match d.name with
  | none => .error "name"
  | some name => .ok
    { name
      kind := d.kind.getD .scalar
      baseType := d.baseType.join
      isList := d.isList.getD false
      relationName := d.relationName.join }

/-- Fields in a text. -/
def fieldRecord : Record Field.Draft Field where
  expected := "struct RawField"
  keys := ["name", "kind", "type", "isList", "relationName"]
  empty := {}
  slot := Field.Draft.slot
  finish := Field.Draft.finish

/-- What has been read of a model. -/
structure Model.Draft where
  name : Option String := none
  fields : Option (List Field) := none

/-- Models in a text. -/
def modelRecord : Record Model.Draft Model where
  expected := "struct RawModel"
  keys := ["name", "fields"]
  empty := {}
  slot := fun d key =>
    if key = "name" then .of d.name readText fun v => { d with name := some v }
    else if key = "fields" then
      .of d.fields (readList (readRecord fieldRecord)) fun v => { d with fields := some v }
    else .unknown
  finish := fun d =>
    match d.name with
    | none => .error "name"
    | some name => .ok { name, fields := d.fields.getD [] }

/-- A list of models in a text. -/
def readModels : Reader (List Model) := readList (readRecord modelRecord)

/-- The envelope around models that schema tools write (`Datamodel`). -/
def datamodelRecord : Record (Option (List Model)) (List Model) where
  expected := "struct Datamodel"
  keys := ["models"]
  empty := none
  slot := fun d key => if key = "models" then .of d readModels some else .unknown
  finish := fun d => .ok (d.getD [])

/-- The two places where a text may hold its models (`DocumentRepr`). -/
structure Envelope where
  models : Option (List Model) := none
  datamodel : Option (List Model) := none

/-- What has been read of an envelope. -/
structure Envelope.Draft where
  models : Option (Option (List Model)) := none
  datamodel : Option (Option (List Model)) := none

/-- The top of a text. -/
def envelopeRecord : Record Envelope.Draft Envelope where
  expected := "struct DocumentRepr"
  keys := ["models", "datamodel"]
  empty := {}
  slot := fun d key =>
    if key = "models" then .of d.models (readOption readModels) fun v => { d with models := some v }
    else if key = "datamodel" then
      .of d.datamodel (readOption (readRecord datamodelRecord))
        fun v => { d with datamodel := some v }
    else .unknown
  finish := fun d => .ok { models := d.models.join, datamodel := d.datamodel.join }

/-- What a text holds in either place. -/
def readEnvelope (text : List Char) : Except Fault Envelope :=
  readWhole (readRecord envelopeRecord) text

end SchemaClass
