import SchemaClass.ClassFile
import SchemaClass.Proofs.Entity.Conversion
import SchemaClass.Proofs.Import.Resolution
/-!
# The imports of one class file

A class file goes through three steps: it is placed, its imports are registered with placeholders
for other classes, and the placeholders are replaced.  All three succeed if every related model has
a path, and what they lead to is written down here without them: one list of symbols and origins,
read off the fields of the model (`Model.directImports`).

* `neededImports_converted`: what is registered first, with every placeholder in front;
* `resolve_registered`: the three steps on the entity of a model;
* `resolve_eq_direct`: conversion and the three steps, from the model on.
-/

namespace SchemaClass

open OrderedSet Outcome

variable {mapper : TypeMapper} {decoration : Decoration}

namespace Model

/-! ## 1. The imports of a model, without placeholders -/

/-- The other models that the fields relate to, at their first reference. -/
def targets (m : Model) : List String :=
  ((m.baseTypes (·.isRelation)).filter (· ≠ m.name)).eraseDups

/-- What comes from modules: the enums of the fields at their first reference, the decorator of the
class, and that of every field. -/
def moduleImports (decoration : Decoration) (enumModule : String) (m : Model) :
    List (String × String) :=
  (m.baseTypes fun f => !f.isRelation && f.isEnum).eraseDups.map (·, enumModule) ++
    [(entityTagName, decoration.module)] ++
      if decoration.documentFields then m.fields.map fun _ => (fieldTagName, decoration.module)
      else []

/-- Everything that the class of a model imports, where `specifier` leads to the files of other
classes. -/
def directImports (decoration : Decoration) (enumModule : String) (specifier : String → String)
    (m : Model) : List (String × String) :=
  m.targets.map (fun t => (Naming.pascal t, specifier t)) ++ m.moduleImports decoration enumModule

theorem relations_eq_targets (m : Model) : m.relations = m.targets := by
  rw [relations, targets, distinct_eq_eraseDups]
  congr 1
  refine List.filter_congr fun t _ => ?_
  rw [Bool.eq_iff_iff, bne_iff_ne, decide_eq_true_iff]

theorem nodup_targets (m : Model) : m.targets.Nodup := by
  rw [← relations_eq_targets]
  exact nodup_distinct _

theorem mem_targets {m : Model} {t : String} : t ∈ m.targets ↔
    t ≠ m.name ∧ ∃ f ∈ m.fields, f.isRelation = true ∧ f.baseType = some t := by
  simp only [targets, List.mem_eraseDups, List.mem_filter, baseTypes, List.mem_filterMap,
    decide_eq_true_eq]
  constructor
  · rintro ⟨⟨f, ⟨hf, hrel⟩, hb⟩, hne⟩
    exact ⟨hne, f, hf, hrel, hb⟩
  · rintro ⟨hne, f, hf, hrel, hb⟩
    exact ⟨⟨f, ⟨hf, hrel⟩, hb⟩, hne⟩

theorem mem_enums {m : Model} {name : String} : name ∈ m.enums ↔
    ∃ f ∈ m.fields, f.isRelation = false ∧ f.isEnum = true ∧ f.baseType = some name := by
  simp [enums, baseTypes, and_assoc]

/-- The decorators of a class and of its properties. -/
def decorators (decoration : Decoration) (m : Model) : List String :=
  if decoration.documentFields && !m.fields.isEmpty then [entityTagName, fieldTagName]
  else [entityTagName]

theorem mem_decorators {m : Model} {name : String} : name ∈ m.decorators decoration ↔
    name = entityTagName ∨
      name = fieldTagName ∧ decoration.documentFields = true ∧ m.fields ≠ [] := by
  unfold decorators
  split <;> simp_all

theorem mem_moduleImports {m : Model} {enumModule symbol origin : String} :
    (symbol, origin) ∈ m.moduleImports decoration enumModule ↔
      (∃ f ∈ m.fields, f.isRelation = false ∧ f.isEnum = true ∧ f.baseType = some symbol ∧
        origin = enumModule) ∨
      (origin = decoration.module ∧ (symbol = entityTagName ∨
        symbol = fieldTagName ∧ decoration.documentFields = true ∧ m.fields ≠ [])) := by
  have henums : symbol ∈ (m.baseTypes fun f => !f.isRelation && f.isEnum).eraseDups ↔
      ∃ f ∈ m.fields, f.isRelation = false ∧ f.isEnum = true ∧ f.baseType = some symbol := by
    simp [baseTypes, and_assoc]
  have hfields : (symbol, origin) ∈ (if decoration.documentFields = true then
      m.fields.map fun _ => (fieldTagName, decoration.module) else []) ↔
        origin = decoration.module ∧ symbol = fieldTagName ∧
          decoration.documentFields = true ∧ m.fields ≠ [] := by
    by_cases hd : decoration.documentFields = true
    · rw [if_pos hd, List.map_const', List.mem_replicate, Prod.mk.injEq, ne_eq,
        List.length_eq_zero_iff]
      constructor
      · rintro ⟨hne, rfl, rfl⟩
        exact ⟨rfl, rfl, hd, hne⟩
      · rintro ⟨rfl, rfl, -, hne⟩
        exact ⟨hne, rfl, rfl⟩
    · rw [if_neg hd]
      exact ⟨fun h => absurd h List.not_mem_nil, fun h => absurd h.2.2.1 hd⟩
  rw [moduleImports, List.mem_append, List.mem_append, hfields, List.mem_singleton,
    Prod.mk.injEq, List.mem_map]
  constructor
  · rintro ((⟨enum, henum, heq⟩ | ⟨rfl, rfl⟩) | ⟨rfl, rfl, hd, hne⟩)
    · cases heq
      obtain ⟨f, hf, hrel, hen, hb⟩ := henums.mp henum
      exact Or.inl ⟨f, hf, hrel, hen, hb, rfl⟩
    · exact Or.inr ⟨rfl, Or.inl rfl⟩
    · exact Or.inr ⟨rfl, Or.inr ⟨rfl, hd, hne⟩⟩
  · rintro (⟨f, hf, hrel, hen, hb, rfl⟩ | ⟨rfl, rfl | ⟨rfl, hd, hne⟩⟩)
    · exact Or.inl (Or.inl ⟨symbol, henums.mpr ⟨f, hf, hrel, hen, hb⟩, rfl⟩)
    · exact Or.inl (Or.inr ⟨rfl, rfl⟩)
    · exact Or.inr ⟨rfl, rfl, hd, hne⟩

theorem isModuleName_of_mem_moduleImports (m : Model) {enumModule : String}
    (henum : IsModuleName enumModule) (hdec : IsModuleName decoration.module) :
    ∀ p ∈ m.moduleImports decoration enumModule, IsModuleName p.2 := by
  rintro ⟨symbol, origin⟩ hp
  rcases mem_moduleImports.mp hp with ⟨-, -, -, -, -, rfl⟩ | ⟨rfl, -⟩
  · exact henum
  · exact hdec

end Model

namespace ClassFile

/-! ## 2. Registration -/

/-- The decorators of the fields. -/
theorem tagImports_fields (decoration : Decoration) (fs : List Field) :
    (fs.map (·.converted mapper decoration)).flatMap (fun p => tagImports p.tags)
      = if decoration.documentFields then fs.map fun _ => (fieldTagName, decoration.module)
        else [] := by
  by_cases hd : decoration.documentFields = true
  · rw [if_pos hd, List.flatMap_map, List.map_eq_flatMap]
    congr 1
    funext f
    simp [Field.converted, Field.tags, tagImports, hd]
  · rw [if_neg hd, List.flatMap_map, List.flatMap_eq_nil_iff]
    intro f _
    simp [Field.converted, Field.tags, tagImports, hd]

/-- What is registered: the placeholders of other classes, then what comes from modules. -/
theorem neededImports_converted (m : Model) (enumModule : String) :
    neededImports enumModule (m.converted mapper decoration)
      = m.targets.map (fun t => (Naming.pascal t, placeholder t))
        ++ m.moduleImports decoration enumModule := by
  have htags : tagImports (m.entityTags decoration) = [(entityTagName, decoration.module)] := rfl
  have henums : m.enums = (m.baseTypes fun f => !f.isRelation && f.isEnum).eraseDups :=
    distinct_eq_eraseDups _
  simp only [neededImports, Model.converted, Model.moduleImports, tagImports_fields, htags, henums,
    Model.relations_eq_targets, List.append_assoc]

theorem mem_neededImports {m : Model} {enumModule symbol origin : String} :
    (symbol, origin) ∈ neededImports enumModule (m.converted mapper decoration) ↔
      (∃ t ∈ m.targets, symbol = Naming.pascal t ∧ origin = placeholder t) ∨
      (symbol ∈ m.enums ∧ origin = enumModule) ∨
      (symbol ∈ m.decorators decoration ∧ origin = decoration.module) := by
  rw [neededImports_converted, List.mem_append, Model.mem_moduleImports, Model.mem_enums,
    Model.mem_decorators]
  have hrelated : (symbol, origin) ∈ m.targets.map (fun t => (Naming.pascal t, placeholder t)) ↔
      ∃ t ∈ m.targets, symbol = Naming.pascal t ∧ origin = placeholder t := by
    simp only [List.mem_map, Prod.mk.injEq, eq_comm]
  rw [hrelated]
  refine or_congr_right (or_congr ?_ and_comm)
  constructor
  · rintro ⟨f, hf, hrel, henum, hb, rfl⟩
    exact ⟨⟨f, hf, hrel, henum, hb⟩, rfl⟩
  · rintro ⟨⟨f, hf, hrel, henum, hb⟩, rfl⟩
    exact ⟨f, hf, hrel, henum, hb, rfl⟩

/-! ## 3. The three steps -/

/-- The file of a model, placed and with all imports registered. -/
def registered (mapper : TypeMapper) (decoration : Decoration) (enumModule : String)
    (location : Location) (m : Model) : ClassFile where
  entity := m.converted mapper decoration
  location := some location
  imports := ({} : ImportList).registerAll
    (neededImports enumModule (m.converted mapper decoration))

/-- **Resolution of a file whose imports have been registered.** -/
theorem resolve_registered (mapper : TypeMapper) (location : Location) (resolver : Path.Resolver)
    {enumModule : String} {locations : List (String × Path)} {pathOf : String → Path} {m : Model}
    (henum : IsModuleName enumModule) (hdec : IsModuleName decoration.module)
    (hloc : ∀ t ∈ m.targets, locations.lookup t = some (pathOf t)) :
    (registered mapper decoration enumModule location m).resolve locations resolver
      = .ok ({ registered mapper decoration enumModule location m with
          imports := ({} : ImportList).registerAll (m.directImports decoration enumModule
            fun t => resolver.specifier location.path (pathOf t)) }, m.targets.length) := by
  have hask : ∀ t ∈ m.targets,
      specifierOf locations resolver m.name location.path t
        = .ok (resolver.specifier location.path (pathOf t)) := by
    intro t ht
    rw [specifierOf, hloc t ht]
  have himports := ImportList.resolveWith_deferred Naming.pascal m.nodup_targets
    (m.isModuleName_of_mem_moduleImports henum hdec) hask
  have hneeded : neededImports enumModule (m.converted mapper decoration) = _ :=
    neededImports_converted m enumModule
  simp only [resolve, path?, registered, Option.map_some, Model.name_converted, hneeded]
  rw [himports]
  rfl

/-- **Conversion, placement, registration and resolution give the imports of the model**, as if no
placeholder had ever stood for them.  A model that is not converted has a field without a type. -/
theorem resolve_eq_direct (mapper : TypeMapper) (decoration : Decoration) (enumModule : String)
    (placement : Placement) (locations : List (String × Path)) (resolver : Path.Resolver)
    (pathOf : String → Path) (m : Model)
    (henum : IsModuleName enumModule) (hdec : IsModuleName decoration.module)
    (hloc : ∀ f ∈ m.fields, f.isRelation = true → ∀ t, f.baseType = some t → t ≠ m.name →
      locations.lookup t = some (pathOf t)) :
    match m.entity mapper decoration with
    | .error _ => ∃ f ∈ m.fields, f.baseType = none
    | .ok e => ∃ file count,
        ((({ entity := e } : ClassFile).place placement).register enumModule).resolve locations
          resolver = .ok (file, count) ∧
        file.imports = ({} : ImportList).registerAll (m.directImports decoration enumModule
          fun t => resolver.specifier (placement e).path (pathOf t)) ∧
        count = m.targets.length := by
  cases he : m.entity mapper decoration with
  | error err =>
    obtain ⟨f, hf, hnone⟩ := Model.exists_untyped_of_entity he
    exact ⟨f, hf, by simpa [Field.IsTyped, Option.eq_none_iff_forall_ne_some] using hnone⟩
  | ok e =>
    obtain ⟨-, rfl⟩ := Model.entity_eq_ok_iff.mp he
    have hlookup : ∀ t ∈ m.targets, locations.lookup t = some (pathOf t) := by
      intro t ht
      obtain ⟨hne, f, hf, hrel, hb⟩ := Model.mem_targets.mp ht
      exact hloc f hf hrel t hb hne
    -- a fresh file that is placed and registered is `registered`, by definition
    exact ⟨_, _, resolve_registered mapper (placement (m.converted mapper decoration)) resolver
      henum hdec hlookup, rfl, rfl⟩

/-- A user with posts and a role, where one module exports everything. -/
def sharedModule : Model :=
  ⟨"User", [{ name := "posts", kind := .object, baseType := some "Post", isList := true,
              relationName := some "PostToUser" },
            { name := "role", kind := .enum, baseType := some "Role" }]⟩

theorem resolve_eq_direct_sharedModule :
    IsModuleName "./post" ∧
      (∀ f ∈ sharedModule.fields, f.isRelation = true → ∀ t, f.baseType = some t →
        t ≠ sharedModule.name → [("Post", Path.mk "out/post.ts")].lookup t = some ⟨"out/post.ts"⟩) ∧
      ∃ file count,
        ((({ entity := sharedModule.converted .typeScript ⟨true, "./post"⟩ } : ClassFile).place
            (.flat ⟨"out"⟩ "ts")).register "./post").resolve [("Post", ⟨"out/post.ts"⟩)] ⟨⟨"/"⟩⟩
          = .ok (file, count) ∧
        file.imports = ⟨[⟨"./post", ["Post", "Role", "ApiExtraModels", "ApiProperty"]⟩]⟩ := by
  have hmodule : IsModuleName "./post" := by decide
  have hloc : ∀ f ∈ sharedModule.fields, f.isRelation = true → ∀ t, f.baseType = some t →
      t ≠ sharedModule.name →
      [("Post", Path.mk "out/post.ts")].lookup t = some ⟨"out/post.ts"⟩ := by
    intro f hf hrel t hb _
    rcases List.mem_pair.mp hf with rfl | rfl
    · cases hb
      rfl
    · cases hrel
  have h := resolve_eq_direct .typeScript ⟨true, "./post"⟩ "./post" (.flat ⟨"out"⟩ "ts")
    [("Post", ⟨"out/post.ts"⟩)] ⟨⟨"/"⟩⟩ (fun _ => ⟨"out/post.ts"⟩) sharedModule hmodule hmodule hloc
  obtain ⟨file, count, hresolve, himports, -⟩ := h
  exact ⟨hmodule, hloc, file, count, hresolve, himports.trans (by decide +kernel)⟩

end ClassFile

end SchemaClass
