import SchemaClass.Proofs.Entity.Conversion
import SchemaClass.Proofs.OrderedSet
/-!
# What conversion answers

Models are converted together.  A relation that leads to no model of the document is reported
before anything else, wherever it stands; then a field without a type; and of several such fields
the first one, as they are declared.  A document without either is converted model by model.

* `Document.fields`: all fields, as they are declared;
* `Document.dangling?_eq_map`, `Document.untyped?_eq_map`: what each of the two passes finds, as a
  search among these fields;
* `Model.becomes_converted`: what an entity says of its model;
* `Document.entities_eq_iff`: what conversion answers, for every document.
-/

namespace SchemaClass

open Outcome OrderedSet

variable {mapper : TypeMapper} {decoration : Decoration}

/-! ## 1. Fields in the order of declaration -/

namespace Field

/-- What is wrong with a field that does not say what its type is. -/
def untyped? (model : String) (f : Field) : Option GenerateError :=
  if f.baseType = none then some (.missingType model f.name) else none

theorem property_eq_faultOr (f : Field) (model : String) : f.property mapper decoration model
    = faultOr (f.untyped? model) (f.converted mapper decoration) := by
  rw [property, untyped?, converted]
  cases f.baseType <;> rfl

end Field

/-- The first field of a model that does not say what its type is. -/
def Model.untyped? (m : Model) : Option GenerateError := m.fields.findSome? (·.untyped? m.name)

theorem Model.untyped?_eq_map (m : Model) : m.untyped? =
    (m.fields.find? fun f => f.baseType = none).map fun f => .missingType m.name f.name := by
  rw [Model.untyped?]
  induction m.fields with
  | nil => rfl
  | cons f fs ih =>
    rw [List.findSome?_cons, List.find?_cons, ih, Field.untyped?]
    by_cases hf : f.baseType = none <;> simp [hf]

theorem Model.entity_eq_faultOr (m : Model) :
    m.entity mapper decoration = faultOr m.untyped? (m.converted mapper decoration) := by
  rw [entity, mapM_faultOr (fun f => f.property_eq_faultOr m.name), Model.untyped?]
  cases m.fields.findSome? (·.untyped? m.name) <;> rfl

namespace Document

/-- All fields, each with its model, as they are declared. -/
def fields (d : Document) : List (Model × Field) := d.models.flatMap fun m => m.fields.map (m, ·)

theorem mem_fields {d : Document} {m : Model} {f : Field} :
    (m, f) ∈ d.fields ↔ m ∈ d.models ∧ f ∈ m.fields := by
  simp [fields]

/-- A search model by model is a search among all fields. -/
theorem find?_fields (d : Document) (p : Model × Field → Bool) : d.fields.find? p
    = d.models.findSome? fun m => (m.fields.find? fun f => p (m, f)).map (m, ·) := by
  rw [fields, List.find?_flatMap]
  congr 1
  funext m
  rw [List.find?_map]
  rfl

/-- A relation to something that is no model of the document. -/
def Dangles (d : Document) (x : Model × Field) : Prop :=
  x.2.isRelation = true ∧ ∃ target, x.2.baseType = some target ∧ ∀ m ∈ d.models, m.name ≠ target

theorem dangles_iff {d : Document} {x : Model × Field} :
    d.Dangles x ↔ d.isDangling x.2 = true := by
  simp [Dangles, isDangling_iff]

instance (d : Document) : DecidablePred d.Dangles := fun _ => decidable_of_iff' _ dangles_iff

/-- The first pass, as a search among all fields. -/
theorem dangling?_eq_map (d : Document) : d.dangling? = (d.fields.find? fun x => d.Dangles x).map
    fun x => .unknownRelation x.1.name x.2.name (x.2.baseType.getD "") := by
  rw [dangling?, find?_fields, List.map_findSome?]
  congr 1
  funext m
  simp [Function.comp_def, dangles_iff]

/-- The first field of a document that does not say what its type is. -/
def untyped? (d : Document) : Option GenerateError := d.models.findSome? (·.untyped?)

/-- The second pass, as a search among all fields. -/
theorem untyped?_eq_map (d : Document) :
    d.untyped? = (d.fields.find? fun x => x.2.baseType = none).map
      fun x => .missingType x.1.name x.2.name := by
  rw [untyped?, find?_fields, List.map_findSome?]
  congr 1
  funext m
  simp [Function.comp_def, Model.untyped?_eq_map]

/-- One pass after the other. -/
theorem entities_eq_faultOr (d : Document) : d.entities mapper decoration
    = faultOr (d.dangling?.or d.untyped?) (d.models.map (·.converted mapper decoration)) := by
  rw [entities]
  cases d.dangling? with
  | some e => rfl
  | none => exact mapM_faultOr Model.entity_eq_faultOr d.models

end Document

/-! ## 2. What an entity says of its model -/

/-- What a property says of its field. -/
structure Field.Becomes (mapper : TypeMapper) (decoration : Decoration) (model : String) (f : Field)
    (p : Property) : Prop where
  property_eq : f.property mapper decoration model = .ok p
  name_eq : p.name = f.name
  kind_eq : p.kind = f.kind

/-- What an entity says of its model. -/
structure Model.Becomes (mapper : TypeMapper) (decoration : Decoration) (m : Model) (e : Entity) :
    Prop where
  entity_eq : m.entity mapper decoration = .ok e
  name_eq : e.name = m.name
  properties : List.Forall₂ (Field.Becomes mapper decoration m.name) m.fields e.properties
  relations : FirstReferences
    (fun f target => f.isRelation = true ∧ f.baseType = some target ∧ target ≠ m.name)
    m.fields e.relations
  enums : FirstReferences
    (fun f target => f.isRelation = false ∧ f.isEnum = true ∧ f.baseType = some target)
    m.fields e.enums

namespace Model

theorem relations_eq_distinct (m : Model) : m.relations = distinct (m.fields.filterMap fun f =>
    if f.isRelation then f.baseType.filter (· != m.name) else none) := by
  rw [relations, baseTypes, List.filterMap_filter, List.filter_filterMap]
  congr 2
  funext f
  split <;> simp

theorem enums_eq_distinct (m : Model) : m.enums = distinct (m.fields.filterMap fun f =>
    if !f.isRelation && f.isEnum then f.baseType else none) := by
  rw [enums, baseTypes, List.filterMap_filter]

/-- **What an entity says of its model**, if every field of it has a type. -/
theorem becomes_converted {m : Model} (h : ∀ f ∈ m.fields, f.IsTyped) :
    m.Becomes mapper decoration (m.converted mapper decoration) where
  entity_eq := entity_eq_ok h
  name_eq := rfl
  properties := by
    rw [converted, List.forall₂_map_right_iff, List.forall₂_same]
    intro f hf
    exact ⟨Field.property_eq_ok (h f hf) m.name, rfl, rfl⟩
  relations := by
    rw [converted, relations_eq_distinct]
    refine firstReferences_distinct (fun f target => ?_) m.fields
    simp [Option.filter_eq_some_iff]
  enums := by
    rw [converted, enums_eq_distinct]
    refine firstReferences_distinct (fun f target => ?_) m.fields
    simp [and_assoc]

end Model

/-! ## 3. Answers -/

namespace Document

/-- What conversion answers for a document: the first relation that leads to no model; or else the
first field without a type; or else an entity for each model, in order. -/
inductive Answers (mapper : TypeMapper) (decoration : Decoration) (d : Document) :
    Except GenerateError (List Entity) → Prop where
  | unknownRelation {m : Model} {f : Field} {target : String}
      (first : IsFirst d.Dangles d.fields (m, f)) (target_eq : f.baseType = some target) :
      d.Answers mapper decoration (.error (.unknownRelation m.name f.name target))
  | missingType {m : Model} {f : Field} (related : ∀ x ∈ d.fields, ¬ d.Dangles x)
      (first : IsFirst (fun x => x.2.baseType = none) d.fields (m, f)) :
      d.Answers mapper decoration (.error (.missingType m.name f.name))
  | entities {es : List Entity} (related : ∀ x ∈ d.fields, ¬ d.Dangles x)
      (typed : ∀ x ∈ d.fields, x.2.baseType ≠ none)
      (becomes : List.Forall₂ (Model.Becomes mapper decoration) d.models es) :
      d.Answers mapper decoration (.ok es)

theorem isTyped_of_fields {d : Document} (h : ∀ x ∈ d.fields, x.2.baseType ≠ none) {m : Model}
    (hm : m ∈ d.models) : ∀ f ∈ m.fields, f.IsTyped := by
  intro f hf
  exact Option.ne_none_iff_exists'.mp (h (m, f) (mem_fields.mpr ⟨hm, hf⟩))

/-- **Conversion answers for every document**: with the first field that spoils it, and with
entities that describe their models if there is none. -/
theorem entities_eq_iff {d : Document} {r : Except GenerateError (List Entity)} :
    d.entities mapper decoration = r ↔ d.Answers mapper decoration r := by
  rw [entities_eq_faultOr, dangling?_eq_map, untyped?_eq_map]
  constructor
  · rintro rfl
    cases hdangling : d.fields.find? fun x => d.Dangles x with
    | some x =>
      have hfirst := find?_eq_some_iff_isFirst.mp hdangling
      obtain ⟨-, target, htarget, -⟩ := hfirst.1
      simp only [Option.map_some, Option.some_or, faultOr_some, htarget, Option.getD_some]
      exact .unknownRelation hfirst htarget
    | none =>
      have hrelated : ∀ x ∈ d.fields, ¬ d.Dangles x := by simpa using hdangling
      cases huntyped : d.fields.find? fun x => x.2.baseType = none with
      | some x => exact .missingType hrelated (find?_eq_some_iff_isFirst.mp huntyped)
      | none =>
        have htyped : ∀ x ∈ d.fields, x.2.baseType ≠ none := by simpa using huntyped
        refine .entities hrelated htyped ?_
        rw [List.forall₂_map_right_iff, List.forall₂_same]
        intro m hm
        exact Model.becomes_converted (isTyped_of_fields htyped hm)
  · intro h
    cases h with
    | unknownRelation hfirst htarget =>
      rw [find?_eq_some_iff_isFirst.mpr hfirst]
      simp [htarget]
    | missingType hrelated hfirst =>
      have hdangling : d.fields.find? (fun x => d.Dangles x) = none := by simpa using hrelated
      rw [hdangling, find?_eq_some_iff_isFirst.mpr hfirst]
      rfl
    | entities hrelated htyped hbecomes =>
      have hdangling : d.fields.find? (fun x => d.Dangles x) = none := by simpa using hrelated
      have huntyped : d.fields.find? (fun x => x.2.baseType = none) = none := by simpa using htyped
      rw [hdangling, huntyped]
      have hconverted : List.Forall₂ (fun m e => m.converted mapper decoration = e) d.models _ :=
        hbecomes.imp fun m e h => (Model.entity_eq_ok_iff.mp h.entity_eq).2.symm
      rw [← List.forall₂_map_left_iff, List.forall₂_eq_eq_eq] at hconverted
      exact congrArg Except.ok hconverted

/-- A relation of the last model is looked at before the types of the first one. -/
example : entities .typeScript {}
    ⟨[⟨"Post", [{ name := "id" }]⟩,
      ⟨"User", [{ name := "pet", baseType := some "Pet", relationName := some "" }]⟩]⟩
    = .error (.unknownRelation "User" "pet" "Pet") := rfl

end Document

end SchemaClass
