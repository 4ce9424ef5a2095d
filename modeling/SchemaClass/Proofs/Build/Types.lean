import SchemaClass.Proofs.Build.Names
import SchemaClass.Proofs.Diagnostic
/-!
# Types in generated files

The type of a property is looked for among the scalars first, and only then it counts whether its
field relates to a model.  What a file imports follows from the relation names and kinds of the
fields alone, and so does what a lint finds.  The two do not always meet: a property can have a type
that its file does not know, and a file can import what no property has for a type.

* `types_of_run`: the file knows the type of a field or there is a finding for the field, unless the
  field passes for a scalar and is none (`Field.IsUnaccounted`);
* `imports_of_run`: what a field makes its file import is the type of a property, unless it has the
  name of a scalar.
-/

namespace SchemaClass

/-! ## 1. Types and what they stand for -/

/-- A type with the marker of a list, if a field is one. -/
def Field.marked (f : Field) (type : String) : String :=
  if f.isList then TypeMapper.typeScript.list type else type

theorem Field.marked_injective {f : Field} {s t : String} (h : f.marked s = f.marked t) :
    s = t := by
  unfold marked at h
  split at h
  · exact (String.append_left_inj "[]").mp h
  · exact h

theorem Field.type_converted {decoration : Decoration} {f : Field} {base : String}
    (hb : f.baseType = some base) :
    (f.converted .typeScript decoration).type = f.marked (f.elementType .typeScript base) := by
  rw [converted, hb]
  rfl

/-- What the type of a property stands for in a file: the scalar of the base type, or the class of
the file or something that the file imports. -/
inductive ClassFile.Resolves (file : ClassFile) (base : String) : String → Prop
  | scalar {s : Scalar} (h : Scalar.ofName? base = some s) :
    file.Resolves base (TypeMapper.typeScript.scalar s)
  | bound {type : String} (h : type ∈ file.names) : file.Resolves base type

/-- A build has a finding for a place in the document. -/
def Build.Reports (b : Build) (location : String) : Prop :=
  ∃ x ∈ b.diagnostics, x.location = some location

/-- Nothing accounts for the type of a field: the field passes for a scalar, but no scalar is called
like its type, and in the file of the field nothing else is. -/
structure Field.IsUnaccounted (f : Field) (file : ClassFile) (base : String) : Prop where
  kind : f.kind = .scalar
  not_relation : f.isRelation = false
  not_scalar : Scalar.ofName? base = none
  not_bound : base ∉ file.names

/-- A property of a file has a type, up to the marker of a list. -/
def ClassFile.Uses (file : ClassFile) (m : Model) (type : String) : Prop :=
  ∃ f p, (f, p) ∈ m.fields.zip file.entity.properties ∧ p.type = f.marked type

/-- A field makes the file of its model import something. -/
inductive Field.Brings (f : Field) (m : Model) : String → Prop
  /-- The class of another model that it relates to. -/
  | related {target : String} (hrel : f.isRelation = true) (hb : f.baseType = some target)
    (hne : target ≠ m.name) : f.Brings m (Naming.pascal target)
  /-- The enum that it is of. -/
  | enum {name : String} (hrel : f.isRelation = false) (henum : f.isEnum = true)
    (hb : f.baseType = some name) : f.Brings m name

namespace Model

variable {c : Config} {root : Path} {m : Model} {f : Field}

/-- **What a file imports, by the fields that make it do so.** -/
theorem mem_symbols_iff_brings {symbol : String} :
    symbol ∈ (m.settledFile c root).imports.symbols ↔
      symbol ∈ m.decorators c.decoration ∨ ∃ f ∈ m.fields, f.Brings m symbol := by
  rw [mem_symbols_settledFile]
  constructor
  · rintro (⟨t, ht, rfl⟩ | hn | hn)
    · obtain ⟨hne, f, hf, hrel, hb⟩ := mem_targets.mp ht
      exact Or.inr ⟨f, hf, .related hrel hb hne⟩
    · obtain ⟨f, hf, hrel, henum, hb⟩ := mem_enums.mp hn
      exact Or.inr ⟨f, hf, .enum hrel henum hb⟩
    · exact Or.inl hn
  · rintro (hn | ⟨f, hf, hbrings⟩)
    · exact Or.inr (Or.inr hn)
    · cases hbrings with
      | related hrel hb hne => exact Or.inl ⟨_, mem_targets.mpr ⟨hne, f, hf, hrel, hb⟩, rfl⟩
      | enum hrel henum hb => exact Or.inr (Or.inl (mem_enums.mpr ⟨f, hf, hrel, henum, hb⟩))

theorem mem_names_of_brings (hf : f ∈ m.fields) {symbol : String} (h : f.Brings m symbol) :
    symbol ∈ (m.settledFile c root).names :=
  List.mem_cons_of_mem _ (mem_symbols_iff_brings.mpr (Or.inr ⟨f, hf, h⟩))

/-! ## 2. Types that a file does not know -/

/-- **Where the type of a field comes from**, case by case. -/
theorem resolves_or_disagrees (hf : f ∈ m.fields) {base : String} (hb : f.baseType = some base)
    (h : ¬ f.IsUnaccounted (m.settledFile c root) base) :
    (m.settledFile c root).Resolves base (f.elementType .typeScript base) ∨ Lint.Disagrees f := by
  cases hscalar : Scalar.ofName? base with
  | some s =>
    rw [Field.elementType_of_scalar hscalar]
    exact Or.inl (.scalar hscalar)
  | none =>
    cases hrel : f.isRelation with
    | true =>
      rw [Field.elementType_of_relation hscalar hrel]
      refine Or.inl (.bound ?_)
      by_cases hown : base = m.name
      · rw [hown]
        exact List.mem_cons_self
      · exact mem_names_of_brings hf (.related hrel hb hown)
    | false =>
      rw [Field.elementType_of_name hscalar hrel]
      cases hkind : f.kind with
      | object => exact Or.inr (iff_of_true hkind hrel)
      | enum =>
        have henum : f.isEnum = true := by rw [Field.isEnum, hkind]; rfl
        exact Or.inl (.bound (mem_names_of_brings hf (.enum hrel henum hb)))
      | scalar =>
        -- only by chance: the file knows the name for the sake of another field
        by_cases hbound : base ∈ (m.settledFile c root).names
        · exact Or.inl (.bound hbound)
        · exact absurd ⟨hkind, hrel, hscalar, hbound⟩ h

theorem not_resolves_of_unaccounted {file : ClassFile} {base type : String}
    (h : f.IsUnaccounted file base) (htype : f.elementType .typeScript base = type) :
    ¬ file.Resolves base type := by
  rw [Field.elementType_of_name h.not_scalar h.not_relation] at htype
  intro hresolves
  cases hresolves with
  | scalar hs =>
    rw [h.not_scalar] at hs
    cases hs
  | bound hbound => exact h.not_bound (htype ▸ hbound)

end Model

namespace Document

variable {c : Config} {root : Path} {d : Document} {m : Model} {f : Field} {build : Build}

theorem reports_settled_iff {location : String} : (d.settled c root).Reports location ↔
    ∃ l ∈ Lint.standard, l.Found d location := by
  simp only [Build.Reports, settled, linted, List.mem_flatMap, Lint.Found]
  constructor
  · rintro ⟨x, ⟨l, hl, hx⟩, hloc⟩
    exact ⟨l, hl, x, hx, hloc⟩
  · rintro ⟨l, hl, x, hx, hloc⟩
    exact ⟨x, ⟨l, hl, hx⟩, hloc⟩

/-- **When the type of a field is known, or there is a finding for the field.** -/
theorem resolves_or_reports_iff (hd : d.WellFormed) (hm : m ∈ d.models) (hf : f ∈ m.fields)
    {base : String} (hb : f.baseType = some base) :
    ((m.settledFile c root).Resolves base (f.elementType .typeScript base) ∨
        (d.settled c root).Reports (Lint.fieldLocation m f)) ↔
      ¬ f.IsUnaccounted (m.settledFile c root) base := by
  rw [reports_settled_iff, found_field_iff hd hm hf]
  constructor
  · rintro (h | h | h) hunaccounted
    · exact Model.not_resolves_of_unaccounted hunaccounted rfl h
    · exact absurd (hunaccounted.not_relation.symm.trans h.1) (by decide)
    · exact absurd (hunaccounted.kind.symm.trans (h.mpr hunaccounted.not_relation)) (by decide)
  · intro h
    rcases Model.resolves_or_disagrees hf hb h with h | h
    · exact Or.inl h
    · exact Or.inr (Or.inr h)

/-- **Types in generated files.**  In every file that a run makes of a document that has been
accepted, each field has a property, and the file knows its type or there is a finding for the
field, unless nothing accounts for it.  Then the type is written as it is given. -/
theorem types_of_run (hd : d.validate = .ok ())
    (hrun : Pipeline.typeScript.run d c root = .ok build) :
    ∃ batch, build.batch = some batch ∧
      List.Forall₂ (fun m file => List.Forall₂ (fun f p => ∃ base type,
          p.name = f.name ∧ f.baseType = some base ∧ p.type = f.marked type ∧
          ((file.Resolves base type ∨ build.Reports (Lint.fieldLocation m f)) ↔
            ¬ f.IsUnaccounted file base) ∧
          (f.IsUnaccounted file base → type = base))
        m.fields file.entity.properties) d.models batch.files := by
  have hwf : d.WellFormed := (validate_decides d).ok_iff.mp hd
  rw [run_eq_settled hwf hrun]
  refine forall_files_settled fun m hm => ?_
  have hproperties : (m.settledFile c root).entity.properties
      = m.fields.map (·.converted .typeScript c.decoration) := rfl
  rw [hproperties, List.forall₂_map_right_iff, List.forall₂_same]
  intro f hf
  obtain ⟨base, hb⟩ := (hwf.fields_sound m hm f hf).typed
  refine ⟨base, f.elementType .typeScript base, rfl, hb, Field.type_converted hb,
    resolves_or_reports_iff hwf hm hf hb, fun h => ?_⟩
  exact Field.elementType_of_name h.not_scalar h.not_relation

theorem run_blog : Pipeline.typeScript.run blog blogConfig ⟨"project"⟩
    = .ok (blog.built blogConfig ⟨"project"⟩) :=
  run_built_of_validate ⟨"project"⟩ validate_blog (by decide) (by decide)

theorem types_of_run_blog :
    blog.validate = .ok () ∧
      Pipeline.typeScript.run blog blogConfig ⟨"project"⟩
        = .ok (blog.built blogConfig ⟨"project"⟩) ∧
      ∃ batch, (blog.built blogConfig ⟨"project"⟩).batch = some batch ∧
        List.Forall₂ (fun m file => List.Forall₂ (fun f p => ∃ base type,
            f.baseType = some base ∧ p.type = f.marked type ∧
            (file.Resolves base type ∨
              (blog.built blogConfig ⟨"project"⟩).Reports (Lint.fieldLocation m f)))
          m.fields file.entity.properties) blog.models batch.files := by
  have hrelations : ∀ m ∈ blog.models, ∀ f ∈ m.fields, f.isRelation = true := by decide
  obtain ⟨batch, hbatch, hfiles⟩ := types_of_run validate_blog run_blog
  refine ⟨validate_blog, run_blog, batch, hbatch, ?_⟩
  refine ((List.forall₂_and_left _ _).mpr ⟨hrelations, hfiles⟩).imp fun m file ⟨hm, hfields⟩ => ?_
  refine ((List.forall₂_and_left _ _).mpr ⟨hm, hfields⟩).imp fun f p ⟨hrel, base, type, h⟩ => ?_
  obtain ⟨-, hb, htype, hiff, -⟩ := h
  refine ⟨base, type, hb, htype, hiff.mpr fun hunaccounted => ?_⟩
  exact absurd (hrel.symm.trans hunaccounted.not_relation) (by decide)

/-- A place whose position has a type that is no scalar, without saying what else it is. -/
def place : Model := ⟨"Place", [{ name := "position", baseType := some "Point" }]⟩

def atlas : Document := ⟨[place]⟩

/-- **A type can be written that nothing accounts for.** -/
theorem unknown_type_atlas :
    atlas.validate = .ok () ∧
      ∃ build file, Pipeline.typeScript.run atlas { input := ⟨"places.json"⟩ } ⟨"project"⟩
          = .ok build ∧
        build.batch = some ⟨[file]⟩ ∧ file.entity.properties.map (·.type) = ["Point"] ∧
        ¬ file.Resolves "Point" "Point" ∧ ¬ build.Reports "Place.position" := by
  have hvalid : atlas.validate = .ok () := by rfl
  have hrun := run_built_of_validate (c := { input := ⟨"places.json"⟩ }) ⟨"project"⟩ hvalid
    (by decide) (by decide)
  refine ⟨hvalid, _, place.file _ _, hrun, rfl, by decide, ?_, ?_⟩
  · have hunaccounted : Field.IsUnaccounted { name := "position", baseType := some "Point" }
        (place.file { input := ⟨"places.json"⟩ } ⟨"project"⟩) "Point" :=
      ⟨rfl, rfl, by decide, by decide +kernel⟩
    exact Model.not_resolves_of_unaccounted hunaccounted rfl
  · rintro ⟨x, hx, -⟩
    exact List.not_mem_nil hx

end Document

/-! ## 3. Imports that no property uses -/

/-- No type of a scalar is the name of one. -/
theorem Scalar.ofName?_typeScript (s : Scalar) :
    ofName? (TypeMapper.typeScript.scalar s) = none := by
  cases s <;> decide

theorem Scalar.pascal_name (s : Scalar) : Naming.pascal s.name = s.name := by
  cases s <;> decide

namespace Model

variable {c : Config} {root : Path} {m : Model} {f : Field}

theorem uses_settledFile_iff (htyped : ∀ f ∈ m.fields, f.IsTyped) {type : String} :
    (m.settledFile c root).Uses m type ↔
      ∃ f ∈ m.fields, ∃ base, f.baseType = some base ∧ f.elementType .typeScript base = type := by
  have hzip : m.fields.zip (m.settledFile c root).entity.properties
      = m.fields.map fun f => (f, f.converted .typeScript c.decoration) :=
    List.map_prod_left_eq_zip.symm
  rw [ClassFile.Uses, hzip]
  constructor
  · rintro ⟨f, p, hp, ht⟩
    obtain ⟨g, hg, heq⟩ := List.mem_map.mp hp
    cases heq
    obtain ⟨base, hb⟩ := htyped f hg
    exact ⟨f, hg, base, hb, Field.marked_injective ((Field.type_converted hb).symm.trans ht)⟩
  · rintro ⟨f, hf, base, hb, rfl⟩
    exact ⟨f, _, List.mem_map.mpr ⟨f, hf, rfl⟩, Field.type_converted hb⟩

/-- A field has the class that it brings for its type, and the enum, unless a scalar comes first. -/
theorem elementType_of_brings {symbol : String} (h : f.Brings m symbol)
    (hscalar : Scalar.ofName? symbol = none) :
    ∃ base, f.baseType = some base ∧ f.elementType .typeScript base = symbol := by
  cases h with
  | @related target hrel hb hne =>
    refine ⟨target, hb, Field.elementType_of_relation ?_ hrel⟩
    cases htarget : Scalar.ofName? target with
    | none => rfl
    | some s =>
      rw [← Scalar.ofName?_eq_some_iff.mp htarget, Scalar.pascal_name, Scalar.ofName?_name] at hscalar
      cases hscalar
  | enum hrel henum hb => exact ⟨symbol, hb, Field.elementType_of_name hscalar hrel⟩

/-- **When something that is imported for a field is the type of a property.** -/
theorem uses_iff_of_brings (htyped : ∀ f ∈ m.fields, f.IsTyped) (hf : f ∈ m.fields)
    {symbol : String} (h : f.Brings m symbol) :
    (m.settledFile c root).Uses m symbol ↔
      Scalar.ofName? symbol = none ∨ ∃ g ∈ m.fields, g.isRelation = true ∧ ∃ target,
        g.baseType = some target ∧ Scalar.ofName? target = none ∧ Naming.pascal target = symbol := by
  rw [uses_settledFile_iff htyped]
  constructor
  · rintro ⟨g, hg, base, hb, rfl⟩
    -- the types of scalars are not called like scalars
    cases hscalar : Scalar.ofName? base with
    | some s =>
      rw [Field.elementType_of_scalar hscalar]
      exact Or.inl (Scalar.ofName?_typeScript s)
    | none =>
      cases hrel : g.isRelation with
      | true =>
        rw [Field.elementType_of_relation hscalar hrel]
        exact Or.inr ⟨g, hg, hrel, base, hb, hscalar, rfl⟩
      | false =>
        rw [Field.elementType_of_name hscalar hrel]
        exact Or.inl hscalar
  · rintro (hscalar | ⟨g, hg, hrel, target, hb, hscalar, rfl⟩)
    · obtain ⟨base, hb, htype⟩ := elementType_of_brings h hscalar
      exact ⟨f, hf, base, hb, htype⟩
    · exact ⟨g, hg, target, hb, Field.elementType_of_relation hscalar hrel⟩

end Model

namespace Document

variable {c : Config} {root : Path} {d : Document} {build : Build}

/-- **Imports in generated files.**  In every file that a run makes of a document that has been
accepted, each import is a decorator or brought by a field, and what a field brings is the type of a
property, unless it has the name of a scalar; even then it is the type of a property if a relation
leads to a model that is called otherwise and has a class of that name. -/
theorem imports_of_run (hd : d.validate = .ok ())
    (hrun : Pipeline.typeScript.run d c root = .ok build) :
    ∃ batch, build.batch = some batch ∧
      List.Forall₂ (fun m file =>
        (∀ symbol, symbol ∈ file.imports.symbols ↔
          symbol ∈ m.decorators c.decoration ∨ ∃ f ∈ m.fields, f.Brings m symbol) ∧
        ∀ f ∈ m.fields, ∀ symbol, f.Brings m symbol →
          (file.Uses m symbol ↔
            Scalar.ofName? symbol = none ∨ ∃ g ∈ m.fields, g.isRelation = true ∧ ∃ target,
              g.baseType = some target ∧ Scalar.ofName? target = none ∧
              Naming.pascal target = symbol))
        d.models batch.files := by
  have hwf : d.WellFormed := (validate_decides d).ok_iff.mp hd
  rw [run_eq_settled hwf hrun]
  refine forall_files_settled fun m hm => ?_
  have htyped : ∀ f ∈ m.fields, f.IsTyped := fun f hf => (hwf.fields_sound m hm f hf).typed
  exact ⟨fun _ => Model.mem_symbols_iff_brings,
    fun f hf _ hbrings => Model.uses_iff_of_brings htyped hf hbrings⟩

theorem imports_of_run_namesakes :
    namesakes.validate = .ok () ∧
      Pipeline.typeScript.run namesakes namesakesConfig ⟨"project"⟩
        = .ok (namesakes.built namesakesConfig ⟨"project"⟩) ∧
      ∃ batch, (namesakes.built namesakesConfig ⟨"project"⟩).batch = some batch ∧
        List.Forall₂ (fun m file => ∀ f ∈ m.fields, ∀ symbol, f.Brings m symbol →
          symbol ∈ file.imports.symbols ∧ file.Uses m symbol) namesakes.models batch.files := by
  have hposts : ∀ m ∈ namesakes.models, ∀ f ∈ m.fields,
      f.isRelation = true ∨ f.isEnum = true → f.baseType = some "Post" := by decide
  obtain ⟨batch, hbatch, hfiles⟩ := imports_of_run validate_namesakes run_namesakes
  refine ⟨validate_namesakes, run_namesakes, batch, hbatch, ?_⟩
  refine ((List.forall₂_and_left _ _).mpr ⟨hposts, hfiles⟩).imp fun m file ⟨hm, hsymbols, huses⟩ => ?_
  intro f hf symbol hbrings
  refine ⟨(hsymbols symbol).mpr (Or.inr ⟨f, hf, hbrings⟩),
    (huses f hf symbol hbrings).mpr (Or.inl ?_)⟩
  cases hbrings with
  | related hrel hb _ =>
    cases hb.symm.trans (hm f hf (Or.inl hrel))
    decide
  | enum _ henum hb =>
    cases hb.symm.trans (hm f hf (Or.inr henum))
    decide

/-- A user that relates to a model, and that model is called like a scalar. -/
def scorer : Model :=
  ⟨"User", [{ name := "scores", kind := .object, baseType := some "Int", isList := true,
              relationName := some "UserScores" }]⟩

def scores : Document := ⟨[⟨"Int", []⟩, scorer]⟩

/-- **A class can be imported that no property has for a type.** -/
theorem useless_import_scores :
    scores.validate = .ok () ∧
      ∃ build batch, Pipeline.typeScript.run scores { input := ⟨"scores.json"⟩ } ⟨"project"⟩
          = .ok build ∧ build.batch = some batch ∧
        ∃ file ∈ batch.files, file.entity.name = scorer.name ∧
          (∃ f ∈ scorer.fields, f.Brings scorer "Int") ∧ "Int" ∈ file.imports.symbols ∧
          ¬ file.Uses scorer "Int" := by
  have hvalid : scores.validate = .ok () := by rfl
  have hrun := run_built_of_validate (c := { input := ⟨"scores.json"⟩ }) ⟨"project"⟩ hvalid
    (by decide) (by decide)
  rw [run_eq_settled ((validate_decides scores).ok_iff.mp hvalid) hrun] at hrun
  have hbrings : ∃ f ∈ scorer.fields, f.Brings scorer "Int" :=
    ⟨_, List.mem_cons_self, @Field.Brings.related _ _ "Int" rfl rfl (by decide)⟩
  refine ⟨hvalid, _, _, hrun, rfl, scorer.settledFile _ _,
    List.mem_cons_of_mem _ List.mem_cons_self, rfl, hbrings,
    Model.mem_symbols_iff_brings.mpr (Or.inr hbrings), ?_⟩
  rintro ⟨f, p, hp, htype⟩
  cases List.mem_singleton.mp hp
  exact absurd htype (by decide)

end Document

end SchemaClass
