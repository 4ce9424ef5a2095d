import SchemaClass.Document.Basic
import SchemaClass.Text.Blank
import SchemaClass.Text.Position
import SchemaClass.Text.Search
/-!
# Valid documents

A document can be generated if its names can be: model and field names are identifiers without
repetition, no two models share a class name or a file name, every field has a type, and every
relation leads to a model.  The first violation is the finding.

* `identifierFault?`: what keeps a name from being an identifier;
* `Document.valueSpans`: where a name is the value of a key in the text;
* `Document.validate`: the first finding;
* `Finding.locate?`: the place in the text that a finding is about.
-/

namespace SchemaClass

/-! ## 1. Identifiers -/

/-- Words that TypeScript keeps for itself and that cannot name a class (`TS_RESERVED`). -/
def reservedWords : List String := [
  "break", "case", "catch", "class", "const", "continue", "debugger", "default", "delete", "do",
  "else", "enum", "export", "extends", "false", "finally", "for", "function", "if", "import",
  "in", "instanceof", "new", "null", "return", "super", "switch", "this", "throw", "true", "try",
  "typeof", "var", "void", "while", "with",
  "implements", "interface", "let", "package", "private", "protected", "public", "static",
  "yield"]

/-- Why a name cannot be used. -/
inductive NameFault where
  | reserved
  | empty
  | badStart
  | badCharacter
  deriving DecidableEq, Repr

def NameFault.text : NameFault → String
  | reserved => "name is a TypeScript reserved word"
  | empty => "name cannot be empty"
  | badStart => "name must start with a letter, `_` or `$`"
  | badCharacter => "name must contain only letters, numbers, `_` and `$`"

/-- Characters that an identifier can start with. -/
def isIdentifierStart (c : Char) : Bool := c.isAlpha || c == '_' || c == '$'

/-- Characters that an identifier can go on with. -/
def isIdentifierPart (c : Char) : Bool := c.isAlphanum || c == '_' || c == '$'

/-- What keeps a name from being an identifier (`validate_identifier`). -/
def identifierFault? (name : String) : Option NameFault :=
  match name.toList with
  | [] => some .empty
  | c :: cs =>
    if !isIdentifierStart c then some .badStart
    else if cs.all isIdentifierPart then none
    else some .badCharacter

/-- Names that are identifiers. -/
def IsIdentifier (name : String) : Prop := identifierFault? name = none

instance (name : String) : Decidable (IsIdentifier name) :=
  inferInstanceAs (Decidable (identifierFault? name = none))

theorem isIdentifier_iff {name : String} :
    IsIdentifier name ↔ ∃ c cs, name.toList = c :: cs ∧ isIdentifierStart c = true ∧
      ∀ d ∈ cs, isIdentifierPart d = true := by
  unfold IsIdentifier identifierFault?
  split
  · next h => simp [h]
  · next c cs h =>
    simp only [h, List.cons.injEq]
    by_cases hs : isIdentifierStart c <;> by_cases hp : cs.all isIdentifierPart
    · simp only [hs, hp, Bool.not_true, Bool.false_eq_true, ↓reduceIte, true_iff]
      exact ⟨c, cs, ⟨rfl, rfl⟩, hs, List.all_eq_true.1 hp⟩
    all_goals
      simp only [hs, hp, Bool.not_true, Bool.not_false, Bool.false_eq_true, ↓reduceIte,
        reduceCtorEq, false_iff]
      rintro ⟨c', cs', ⟨rfl, rfl⟩, hs', hp'⟩
      simp_all

/-! ## 2. Finding a name in the text

A finding is about a name, not about a place, so its label is searched for: the name between quotes
where it is the value of a given key.  The search looks at the text only, so a name that is written
with escapes is not found. -/

section Search

open Text

namespace Document

/-- A text between double quotes. -/
def quoted (s : String) : List Char := '"' :: (s.toList ++ ['"'])

/-- Whether a value that follows `before` is stored under `key`: the quoted key and a colon stand
before it, with any blanks around the colon. -/
def isStoredUnder (key : String) (before : List Char) : Bool :=
  match trimStart before.reverse with
  | ':' :: earlier => (dropToken? (quoted key).reverse (trimStart earlier)).isSome
  | _ => false

/-- The places of `value` as a value of `key`, without the quotes. -/
def valueSpans (text : List Char) (key value : String) : List Span :=
  ((occurrences (quoted value) text).filter fun (before, _) => isStoredUnder key before).map
    fun (before, _) => ⟨byteLength before + 1, byteLength value.toList⟩

/-- The place with number `nth` of `value` as a value of `key` (`find_value_span`). -/
def valueSpan? (text : List Char) (key value : String) (nth : Nat) : Option Span :=
  (valueSpans text key value)[nth]?

end Document

end Search

/-! ## 3. Findings -/

/-- What a name belongs to. -/
inductive NameOwner where
  | model
  | field (model : String)
  | fieldType (model field : String)
  deriving DecidableEq, Repr

def NameOwner.text : NameOwner → String
  | model => "model"
  | field m => s!"field in model '{m}'"
  | fieldType m f => s!"type of field '{m}.{f}'"

/-- What is wrong with a document. -/
inductive Finding where
  | duplicateModel (name : String)
  | duplicateField (model name : String)
  | invalidName (owner : NameOwner) (name : String) (fault : NameFault)
  | nameCollision (first second generated : String)
  | missingType (model field : String)
  | unknownRelation (model field target : String)
  deriving DecidableEq, Repr

namespace Finding

def message : Finding → String
  | duplicateModel name => s!"duplicate {NameOwner.model.text} '{name}'"
  | duplicateField model name => s!"duplicate {(NameOwner.field model).text} '{name}'"
  | invalidName owner name _ => s!"invalid {owner.text} name '{name}'"
  | nameCollision first second generated =>
    s!"models '{first}' and '{second}' both generate '{generated}'"
  | missingType model field => s!"field '{model}.{field}' has no type"
  | unknownRelation model field target =>
    s!"field '{model}.{field}' relates to unknown model '{target}'"

/-- The code under which a finding can be looked up. -/
def code? : Finding → Option String
  | duplicateModel _ | duplicateField _ _ => some "kiln::duplicate"
  | invalidName .. => none
  | nameCollision .. => some "kiln::name_collision"
  | missingType .. => some "kiln::missing_type"
  | unknownRelation .. => some "kiln::unknown_relation"

/-- What can be done about a finding. -/
def help? : Finding → Option String
  | duplicateModel _ | duplicateField _ _ => none
  | invalidName _ _ fault =>
    some (fault.text ++
      ". Use only letters, numbers, `_` and `$`, not starting with a number.")
  | nameCollision .. =>
    some "class and file names are derived from model names; rename one of the models"
  | missingType .. => some "every field needs a `type`: a scalar, an enum or a model name"
  | unknownRelation _ _ target =>
    some s!"declare a model named '{target}' or remove the relation"

/-- What is written at the place of a finding. -/
def label : Finding → String
  | duplicateModel _ | duplicateField _ _ => "declared again here"
  | invalidName .. => "invalid identifier"
  | nameCollision first _ _ => s!"collides with '{first}'"
  | missingType .. => "declared here"
  | unknownRelation .. => "relation declared here"

/-- The place in the text that a finding is about. -/
def locate? (text : List Char) : Finding → Option Text.Span
  | duplicateModel name => Document.valueSpan? text "name" name 1
  | duplicateField _ name => Document.valueSpan? text "name" name 1
  | invalidName (.fieldType _ _) name _ => Document.valueSpan? text "type" name 0
  | invalidName _ name _ => Document.valueSpan? text "name" name 0
  | nameCollision _ second _ => Document.valueSpan? text "name" second 0
  | missingType _ field => Document.valueSpan? text "name" field 0
  | unknownRelation _ _ target => Document.valueSpan? text "type" target 0

end Finding

/-! ## 4. The check -/

namespace Document

/-- Checks that a name is an identifier. -/
def checkIdentifier (owner : NameOwner) (name : String) : Except Finding Unit :=
  match identifierFault? name with
  | some fault => .error (.invalidName owner name fault)
  | none => .ok ()

/-- Checks that a name can be that of a model (`validate_model_name`). -/
def checkModelName (name : String) : Except Finding Unit :=
  if reservedWords.contains name then .error (.invalidName .model name .reserved)
  else checkIdentifier .model name

/-- Checks the names of models, where `seen` have been met before. -/
def checkModelNames (seen : List String) : List Model → Except Finding Unit
  | [] => .ok ()
  | m :: ms => do
    if seen.contains m.name then throw (.duplicateModel m.name)
    checkModelName m.name
    checkModelNames (m.name :: seen) ms

/-- Takes a generated name for a model, unless another model has taken it. -/
def claimName (taken : List (String × String)) (generated name : String) :
    Except Finding (List (String × String)) :=
  match taken.lookup generated with
  | some first => .error (.nameCollision first name generated)
  | none => .ok ((generated, name) :: taken)

/-- Checks that no two models are generated under one class name or one file name
(`validate_generated_names`). -/
def checkGeneratedNames (classes files : List (String × String)) :
    List Model → Except Finding Unit
  | [] => .ok ()
  | m :: ms => do
    let classes ← claimName classes (Naming.pascal m.name) m.name
    let files ← claimName files (Naming.kebab m.name) m.name
    checkGeneratedNames classes files ms

/-- Checks one field by itself. -/
def checkField (d : Document) (m : Model) (f : Field) : Except Finding Unit := do
  checkIdentifier (.field m.name) f.name
  match f.baseType with
  | none => throw (.missingType m.name f.name)
  | some base =>
    if f.isEnum || f.isRelation then checkIdentifier (.fieldType m.name f.name) base
    if f.isRelation && !d.hasModel base then throw (.unknownRelation m.name f.name base)

/-- Checks the fields of a model, where `seen` have been met before (`validate_fields`). -/
def checkFields (d : Document) (m : Model) (seen : List String) :
    List Field → Except Finding Unit
  | [] => .ok ()
  | f :: fs => do
    if seen.contains f.name then throw (.duplicateField m.name f.name)
    checkField d m f
    checkFields d m (f.name :: seen) fs

/-- Checks the fields of all models. -/
def checkAllFields (d : Document) : List Model → Except Finding Unit
  | [] => .ok ()
  | m :: ms => do
    checkFields d m [] m.fields
    checkAllFields d ms

/-- The first finding about a document: names of models first, then the names generated from them,
then fields (`validate_document`). -/
def validate (d : Document) : Except Finding Unit := do
  checkModelNames [] d.models
  checkGeneratedNames [] [] d.models
  checkAllFields d d.models

end Document

end SchemaClass
