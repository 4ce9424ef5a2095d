import SchemaClass.Document.Reader
import SchemaClass.Json.Writer
import SchemaClass.SchemaError
/-!
# Documents as texts

A text is a document if it has the form, holds its models in exactly one of the two places, and
breaks no rule.  A document is written with its models at the top.  Every field says its kind, its
type and whether it is a list; a relation name is written only where there is one.

* `Document.parse`: the document of a text;
* `Document.write`: the text of a document.
-/

namespace SchemaClass

/-! ## 1. Reading -/

/-- The models of an envelope, which must be in exactly one place. -/
def Envelope.document (e : Envelope) : Except Rejection Document :=
  match e.models, e.datamodel with
  | some _, some _ => .error .bothPlaces
  | some models, none | none, some models => .ok ⟨models⟩
  | none, none => .error .noModels

namespace Document

/-- The document of a text, or what is wrong with the text. -/
def ofText (text : String) : Except Problem Document := do
  let envelope ← (readEnvelope text.toList).mapError .document
  let d ← envelope.document.mapError (.rejected · none)
  d.validate.mapError .finding
  return d

/-- The name under which a document without a file is known. -/
def defaultFile : String := "schema.json"

/-- The document of a text that is known as `file` (`parse_document`). -/
def parse (file text : String) : Except SchemaError Document :=
  (ofText text).mapError (.refused file text)

end Document

/-! ## 2. Writing -/

open Json

/-- A field as an object. -/
def Field.write (f : Field) : List Char :=
  writeObject (
    [("name", writeText f.name), ("kind", writeText f.kind.name),
      ("type", writeOption writeText f.baseType), ("isList", writeBoolean f.isList)]
    ++ f.relationName.toList.map fun name => ("relationName", writeText name))

/-- A model as an object. -/
def Model.write (m : Model) : List Char :=
  writeObject [("name", writeText m.name), ("fields", writeList Field.write m.fields)]

/-- A document as an object. -/
def Document.write (d : Document) : List Char :=
  writeObject [("models", writeList Model.write d.models)]

example : String.ofList (Document.write ⟨[{ name := "User", fields := [{ name := "i\"d" }] }]⟩)
    = "\x7b\"models\":[\x7b\"name\":\"User\",\"fields\":[\x7b\"name\":\"i\\\"d\",\"kind\":\"scalar\","
      ++ "\"type\":null,\"isList\":false\x7d]\x7d]\x7d" := by decide

end SchemaClass
