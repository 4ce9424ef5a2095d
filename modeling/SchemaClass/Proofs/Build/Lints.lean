import SchemaClass.Proofs.Build.Stages
import SchemaClass.Proofs.Diagnostic
import SchemaClass.Proofs.Entity.Answers
/-!
# Lints against conversion

Lints read off a document what conversion decides elsewhere: which relations need no import, and
whether the kind of a field or its relation name counts.  Both look at one field at a time, so what
a lint says of a field alone can be compared with what conversion makes of it.

* `Model.relations_eq_parts`, `Model.enums_eq_parts`: the references of an entity are those of its
  fields;
* `Lint.Describes`: what lints say of a field, against what conversion makes of it;
* `Phase.lints_describe_conversion`: both together, and the phase that runs the lints.
-/

namespace SchemaClass

open OrderedSet

variable {mapper : TypeMapper} {decoration : Decoration}

/-! ## 1. What conversion makes of one field -/

namespace Model

theorem relations_alone (m : Model) (f : Field) : (m.alone f).relations =
    (if f.isRelation then f.baseType.filter (· != m.name) else none).toList := by
  rw [relations_eq_distinct]
  exact distinct_filterMap_singleton _ f

theorem enums_alone (m : Model) (f : Field) : (m.alone f).enums =
    (if !f.isRelation && f.isEnum then f.baseType else none).toList := by
  rw [enums_eq_distinct]
  exact distinct_filterMap_singleton _ f

/-- The relations of a model are those of its fields, each once. -/
theorem relations_eq_parts (m : Model) :
    m.relations = distinct (m.fields.flatMap fun f => (m.alone f).relations) := by
  rw [relations_eq_distinct, distinct_filterMap_eq_flatMap]
  congr 1
  exact List.flatMap_congr fun f _ => (relations_eq_distinct (m.alone f)).symm

/-- The enums of a model are those of its fields, each once. -/
theorem enums_eq_parts (m : Model) :
    m.enums = distinct (m.fields.flatMap fun f => (m.alone f).enums) := by
  rw [enums_eq_distinct, distinct_filterMap_eq_flatMap]
  congr 1
  exact List.flatMap_congr fun f _ => (enums_eq_distinct (m.alone f)).symm

/-- A field refers to its type if it has a relation name and does not mean its own model. -/
theorem mem_relations_iff {m : Model} {f : Field} {base : String} (hf : f ∈ m.fields)
    (hrel : f.isRelation = true) (hbase : f.baseType = some base) :
    base ∈ m.relations ↔ base ≠ m.name := by
  rw [relations_eq_distinct, mem_distinct, List.mem_filterMap]
  constructor
  · rintro ⟨g, -, hg⟩
    split at hg
    · exact bne_iff_ne.mp (Option.filter_eq_some_iff.mp hg).2
    · cases hg
  · intro hne
    exact ⟨f, hf, by simp [hrel, hbase, hne]⟩

end Model

/-! ## 2. Both -/

/-- What the lints say of a field of a model, against what conversion makes of it: the entity of
the model, and that of the model with this field only. -/
structure Lint.Describes (m : Model) (whole : Entity) (f : Field) (part : Entity) : Prop where
  self_relation : selfRelation.notes m f =
    if f.isRelation && !f.baseType.any whole.relatesTo then [selfNote m f] else []
  relation_kind : relationKind.notes m f =
    if (f.kind == .object) != f.isRelation then
      [if f.isRelation then treatedNote m f else notImportedNote m f]
    else []
  not_imported : relationKind.notes m f = [notImportedNote m f] →
    part.relations = [] ∧ part.enums = []
  treated : relationKind.notes m f = [treatedNote m f] → ∃ base, f.baseType = some base ∧
    part.relations = (if base = m.name then [] else [base]) ∧
    (base ≠ m.name → base ∈ whole.relations) ∧ part.enums = []

namespace Lint

variable {m : Model} {f : Field}

theorem eq_of_notImportedNote (h : relationKind.notes m f = [notImportedNote m f]) :
    f.kind = .object ∧ f.isRelation = false := by
  rw [notes_relationKind] at h
  cases hrel : f.isRelation with
  | false => simpa [hrel] using h
  | true =>
    rw [hrel] at h
    split at h
    · exact absurd (List.singleton_inj.mp h).symm (notImportedNote_ne_treatedNote m f)
    · cases h

theorem isRelation_of_treatedNote (h : relationKind.notes m f = [treatedNote m f]) :
    f.isRelation = true := by
  by_contra hrel
  rw [notes_relationKind, Bool.eq_false_iff.mpr hrel] at h
  split at h
  · exact notImportedNote_ne_treatedNote m f (List.singleton_inj.mp h)
  · cases h

/-- **What lints say of a field is what conversion does.** -/
theorem describes_converted (hf : f ∈ m.fields) (htyped : f.IsTyped) :
    Describes m (m.converted mapper decoration) f ((m.alone f).converted mapper decoration) := by
  obtain ⟨base, hbase⟩ := htyped
  refine ⟨?_, notes_relationKind m f, fun h => ?_, fun h => ?_⟩
  · rw [notes_selfRelation]
    cases hrel : f.isRelation with
    | false => rfl
    | true =>
      have hself : (base == m.name) = !(m.converted mapper decoration).relatesTo base := by
        have hmem := Model.mem_relations_iff hf hrel hbase
        rw [Bool.eq_iff_iff]
        simp [Entity.relatesTo, Model.converted, hmem]
      simp [hbase, hself]
  · obtain ⟨hkind, hrel⟩ := eq_of_notImportedNote h
    have henum : f.isEnum = false := by rw [Field.isEnum, hkind]; rfl
    refine ⟨?_, ?_⟩
    · simp [Model.converted, Model.relations_alone, hrel]
    · simp [Model.converted, Model.enums_alone, henum]
  · have hrel := isRelation_of_treatedNote h
    refine ⟨base, hbase, ?_, (Model.mem_relations_iff hf hrel hbase).mpr, ?_⟩
    · by_cases hself : base = m.name <;>
        simp [Model.converted, Model.relations_alone, hrel, hbase, hself]
    · simp [Model.converted, Model.enums_alone, hrel]

end Lint

/-! ## 3. The phase -/

namespace Phase

theorem validate_fails_iff {b : Build} :
    (Phase.validate).Fails b ↔ ∃ x ∈ b.examined.diagnostics, x.severity = .error := by
  rw [Fails, run_validate_eq, ← Build.hasErrors_iff]
  cases b.examined.hasErrors <;> simp

/-- **Lints describe what conversion does**: field by field, for every model that is converted; and
the phase keeps just their findings. -/
theorem lints_describe_conversion (mapper : TypeMapper) (decoration : Decoration) (b : Build) :
    (∀ m ∈ b.document.models, ∀ e, m.entity mapper decoration = .ok e → ∃ parts : List Entity,
      List.Forall₂ (fun f part => (m.alone f).entity mapper decoration = .ok part ∧
        Lint.Describes m e f part) m.fields parts ∧
      e.relations = distinct (parts.flatMap (·.relations)) ∧
      e.enums = distinct (parts.flatMap (·.enums))) ∧
    Lint.selfRelation.Fieldwise ∧ Lint.relationKind.Fieldwise ∧
    ((Phase.validate).run b).1 =
      { b with diagnostics := b.diagnostics ++ b.document.findings } ∧
    ((Phase.validate).Fails b ↔
      ∃ x ∈ ((Phase.validate).run b).1.diagnostics, x.severity = .error) := by
  refine ⟨fun m _ e he => ?_, Lint.fieldwise_selfRelation, Lint.fieldwise_relationKind, ?_, ?_⟩
  · obtain ⟨htyped, rfl⟩ := Model.entity_eq_ok_iff.mp he
    refine ⟨m.fields.map fun f => (m.alone f).converted mapper decoration, ?_, ?_, ?_⟩
    · rw [List.forall₂_map_right_iff, List.forall₂_same]
      intro f hf
      refine ⟨Model.entity_eq_ok fun g hg => ?_, Lint.describes_converted hf (htyped f hf)⟩
      rw [List.mem_singleton.mp hg]
      exact htyped f hf
    · rw [List.flatMap_map]
      exact m.relations_eq_parts
    · rw [List.flatMap_map]
      exact m.enums_eq_parts
  · rw [run_validate_eq]
    rfl
  · rw [validate_fails_iff, run_validate_eq]

end Phase

/-- A model in which relation names and kinds disagree, also on a relation to itself. -/
def Model.node : Model where
  name := "Node"
  fields :=
    [{ name := "parent", kind := .enum, baseType := some "Node", relationName := some "Tree" },
     { name := "owner", kind := .object, baseType := some "User" },
     { name := "editor", baseType := some "User", relationName := some "Edits" },
     { name := "color", kind := .enum, baseType := some "Color" }]

/-- A build in which there has been an error before. -/
def Build.node : Build where
  document := ⟨[⟨"User", []⟩, Model.node]⟩
  config := Document.blogConfig
  root := ⟨"project"⟩
  diagnostics := [{ severity := .error, phase := "read", message := "not a schema" }]

theorem Phase.lints_describe_conversion_node :
    Model.node ∈ Build.node.document.models ∧
      Model.node.entity .typeScript {} = .ok (Model.node.converted .typeScript {}) ∧
      (Model.node.converted .typeScript {}).relations = ["User"] ∧
      (Model.node.converted .typeScript {}).enums = ["Color"] ∧
      (∃ parts : List Entity, parts.map (·.relations) = [[], [], ["User"], []] ∧
        parts.map (·.enums) = [[], [], [], ["Color"]] ∧
        List.Forall₂ (Lint.Describes Model.node (Model.node.converted .typeScript {}))
          Model.node.fields parts) ∧
      ((Phase.validate).run Build.node).1.diagnostics.map (·.text) =
        ["error: not a schema",
         "warning: model 'User' has no fields (at User)",
         "info: 'Node.parent' relates to its own model; no import is generated (at Node.parent)",
         "warning: 'Node.parent' has a relation name but is not an object field; " ++
           "treating it as a relation (at Node.parent)",
         "warning: 'Node.owner' is an object field without a relation name; " ++
           "its type is not imported (at Node.owner)",
         "warning: 'Node.editor' has a relation name but is not an object field; " ++
           "treating it as a relation (at Node.editor)"] ∧
      (Phase.validate).Fails Build.node := by
  have hmem : Model.node ∈ Build.node.document.models := by decide
  have he : Model.node.entity .typeScript {} = .ok (Model.node.converted .typeScript {}) := rfl
  obtain ⟨hmodels, -, -, hrun, hfails⟩ :=
    Phase.lints_describe_conversion .typeScript {} Build.node
  obtain ⟨parts, hparts, -, -⟩ := hmodels Model.node hmem _ he
  obtain rfl :
      Model.node.fields.map (fun f => (Model.node.alone f).converted .typeScript {}) = parts := by
    have heq := hparts.imp fun _ _ h => (Model.entity_eq_ok_iff.mp h.1).2.symm
    rwa [← List.forall₂_map_left_iff, List.forall₂_eq_eq_eq] at heq
  refine ⟨hmem, he, rfl, rfl, ⟨_, rfl, rfl, hparts.imp fun _ _ h => h.2⟩, ?_, ?_⟩
  · rw [hrun]
    decide +kernel
  · rw [hfails, hrun]
    exact ⟨_, List.mem_cons_self, rfl⟩

end SchemaClass
