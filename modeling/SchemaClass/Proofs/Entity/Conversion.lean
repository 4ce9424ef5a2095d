import Mathlib.Tactic.ByContra
import SchemaClass.Entity.Conversion
import SchemaClass.Proofs.Outcome
/-!
# What conversion gives

A conversion fails for one reason only, a field without a type.  So the entity of a model can be
written down without steps that may fail, and conversion gives just this entity whenever every
field has a type.

* `Field.elementType_of_scalar` and its neighbours: the type of a field, case by case;
* `Field.converted`, `Model.converted`: the property and the entity;
* `Model.entity_eq_ok_iff`: when conversion succeeds, and with what;
* `Document.entities_eq_ok_iff`: the same for all models of a document.
-/

namespace SchemaClass

open Outcome

variable {mapper : TypeMapper} {decoration : Decoration}

/-! ## 1. Fields -/

namespace Field

/-- A field that says what its type is. -/
def IsTyped (f : Field) : Prop := ∃ base, f.baseType = some base

/-- The property of a field. -/
def converted (mapper : TypeMapper) (decoration : Decoration) (f : Field) : Property where
  name := f.name
  type := f.targetType mapper (f.baseType.getD "")
  kind := f.kind
  tags := f.tags mapper decoration (f.baseType.getD "")

section ElementType

variable {f : Field} {base : String}

theorem elementType_of_scalar {s : Scalar} (h : Scalar.ofName? base = some s) :
    f.elementType mapper base = mapper.scalar s := by
  rw [elementType, h]

theorem elementType_of_relation (h : Scalar.ofName? base = none) (hrel : f.isRelation = true) :
    f.elementType mapper base = Naming.pascal base := by
  simp only [elementType, h, hrel, if_true]

theorem elementType_of_name (h : Scalar.ofName? base = none) (hrel : f.isRelation = false) :
    f.elementType mapper base = base := by
  simp only [elementType, h, hrel, Bool.false_eq_true, if_false]

end ElementType

theorem property_eq_ok {f : Field} (h : f.IsTyped) (model : String) :
    f.property mapper decoration model = .ok (f.converted mapper decoration) := by
  obtain ⟨base, hb⟩ := h
  simp [property, converted, hb]

theorem isTyped_of_property {f : Field} {model : String} {p : Property}
    (h : f.property mapper decoration model = .ok p) : f.IsTyped := by
  unfold property at h
  split at h
  · cases h
  · next base hb => exact ⟨base, hb⟩

end Field

/-! ## 2. Models -/

namespace Model

/-- The entity of a model. -/
def converted (mapper : TypeMapper) (decoration : Decoration) (m : Model) : Entity where
  name := m.name
  properties := m.fields.map (·.converted mapper decoration)
  relations := m.relations
  enums := m.enums
  tags := m.entityTags decoration

@[simp] theorem name_converted (m : Model) : (m.converted mapper decoration).name = m.name := rfl

theorem entity_eq_ok {m : Model} (h : ∀ f ∈ m.fields, f.IsTyped) :
    m.entity mapper decoration = .ok (m.converted mapper decoration) := by
  have hfields : m.fields.mapM (·.property mapper decoration m.name)
      = .ok (m.fields.map (·.converted mapper decoration)) :=
    mapM_eq_ok_map fun f hf => Field.property_eq_ok (h f hf) m.name
  rw [entity, hfields]
  rfl

/-- **When a model is converted, and what it becomes.** -/
theorem entity_eq_ok_iff {m : Model} {e : Entity} : m.entity mapper decoration = .ok e ↔
    (∀ f ∈ m.fields, f.IsTyped) ∧ e = m.converted mapper decoration := by
  constructor
  · intro h
    have htyped : ∀ f ∈ m.fields, f.IsTyped := by
      intro f hf
      obtain ⟨ps, hps, -⟩ := bind_eq_ok.mp h
      obtain ⟨p, hp⟩ := exists_ok_of_mapM hps f hf
      exact Field.isTyped_of_property hp
    rw [entity_eq_ok htyped] at h
    exact ⟨htyped, (Except.ok.inj h).symm⟩
  · rintro ⟨htyped, rfl⟩
    exact entity_eq_ok htyped

/-- A model that is not converted has a field without a type. -/
theorem exists_untyped_of_entity {m : Model} {e : GenerateError}
    (h : m.entity mapper decoration = .error e) : ∃ f ∈ m.fields, ¬ f.IsTyped := by
  by_contra hnone
  have htyped : ∀ f ∈ m.fields, f.IsTyped := fun f hf => by
    by_contra hf'
    exact hnone ⟨f, hf, hf'⟩
  rw [entity_eq_ok htyped] at h
  cases h

end Model

/-! ## 3. Documents -/

namespace Document

theorem isDangling_iff {d : Document} {f : Field} : d.isDangling f = true ↔
    f.isRelation = true ∧ ∃ base, f.baseType = some base ∧ ¬ ∃ t ∈ d.models, t.name = base := by
  rw [isDangling, Bool.and_eq_true, Option.any_eq_true]
  refine and_congr_right fun _ => exists_congr fun base => and_congr_right fun _ => ?_
  rw [Bool.not_eq_true', ← Bool.not_eq_true, hasModel_iff]

/-- Every relation with a type leads to a model. -/
theorem dangling?_eq_none_iff {d : Document} : d.dangling? = none ↔
    ∀ m ∈ d.models, ∀ f ∈ m.fields, ∀ base, f.baseType = some base → f.isRelation = true →
      ∃ t ∈ d.models, t.name = base := by
  rw [dangling?, List.findSome?_eq_none_iff]
  refine forall₂_congr fun m _ => ?_
  rw [Option.map_eq_none_iff, List.find?_eq_none]
  refine forall₂_congr fun f _ => ?_
  rw [isDangling_iff]
  constructor
  · intro h base hb hrel
    by_contra hnone
    exact h ⟨hrel, base, hb, hnone⟩
  · rintro h ⟨hrel, base, hb, hnone⟩
    exact hnone (h base hb hrel)

/-- **When a document is converted, and what it becomes.** -/
theorem entities_eq_ok_iff {d : Document} {es : List Entity} :
    d.entities mapper decoration = .ok es ↔
      (∀ m ∈ d.models, ∀ f ∈ m.fields, f.IsTyped) ∧
      (∀ m ∈ d.models, ∀ f ∈ m.fields, ∀ base, f.baseType = some base → f.isRelation = true →
        ∃ t ∈ d.models, t.name = base) ∧
      es = d.models.map (·.converted mapper decoration) := by
  constructor
  · intro h
    rw [entities] at h
    split at h
    · cases h
    · next hnone =>
      have htyped : ∀ m ∈ d.models, ∀ f ∈ m.fields, f.IsTyped := by
        intro m hm
        obtain ⟨e, he⟩ := exists_ok_of_mapM h m hm
        exact (Model.entity_eq_ok_iff.mp he).1
      rw [mapM_eq_ok_map fun m hm => Model.entity_eq_ok (htyped m hm)] at h
      exact ⟨htyped, dangling?_eq_none_iff.mp hnone, (Except.ok.inj h).symm⟩
  · rintro ⟨htyped, htarget, rfl⟩
    rw [entities, dangling?_eq_none_iff.mpr htarget]
    exact mapM_eq_ok_map fun m hm => Model.entity_eq_ok (htyped m hm)

end Document

end SchemaClass
