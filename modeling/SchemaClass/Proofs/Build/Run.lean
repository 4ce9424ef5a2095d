import SchemaClass.Build.Pipeline
import SchemaClass.Proofs.Batch
import SchemaClass.Proofs.ClassFile.Imports
import SchemaClass.Proofs.ClassFile.Text
import SchemaClass.Proofs.Diagnostic
import SchemaClass.Proofs.Placement
/-!
# The run on a well-formed document

On a well-formed document no phase can fail if no module is named like a placeholder, so the build
at the end of a run is written down here without phases (`Document.built`): each model has a file,
and that file follows from the model, the configuration and the root alone (`Model.file`).  What a
run promises is then read off that build.

* `Phase.run_validate_eq`: the phase that runs the lints, also where it fails;
* `run_eq_resolve`: the run on a well-formed document, one phase after the other, up to the last;
* `run_eq_built`: the whole run, where no module is named like a placeholder;
* `renderAll_built`: the texts of its files;
* `batch_of_validate`: the batch of a document that has been accepted;
* `run_of_validate`: such a document is generated.
-/

namespace SchemaClass

open Outcome

/-! ## 1. The build at the end -/

/-- Where the file of a model is, for a project in `root`. -/
def Config.location (c : Config) (root : Path) (name : String) : Location :=
  c.layout.location (c.outputPath root) "ts" name

/-- The file of a model before its imports are registered. -/
def Model.placedFile (c : Config) (root : Path) (m : Model) : ClassFile where
  entity := m.converted .typeScript c.decoration
  location := some (c.location root m.name)

/-- The file of a model before its imports are resolved. -/
def Model.pendingFile (c : Config) (root : Path) (m : Model) : ClassFile :=
  ClassFile.registered .typeScript c.decoration c.enumModule (c.location root m.name) m

/-- The file of a model at the end of a run. -/
def Model.file (c : Config) (root : Path) (m : Model) : ClassFile where
  entity := m.converted .typeScript c.decoration
  location := some (c.location root m.name)
  imports := ({} : ImportList).registerAll (m.directImports c.decoration c.enumModule fun t =>
    (⟨root⟩ : Path.Resolver).specifier (c.location root m.name).path (c.location root t).path)

/-- The build of a document once lints have looked at it. -/
def Document.linted (c : Config) (root : Path) (d : Document) : Build where
  document := d
  config := c
  root := root
  diagnostics := Lint.standard.flatMap (·.check d)

/-- The build of a document whose files wait for one another. -/
def Document.pending (c : Config) (root : Path) (d : Document) : Build :=
  { d.linted c root with batch := some ⟨d.models.map (·.pendingFile c root)⟩ }

/-- The build at the end of a run. -/
def Document.built (c : Config) (root : Path) (d : Document) : Build :=
  { d.linted c root with batch := some ⟨d.models.map (·.file c root)⟩ }

/-! ## 2. The phase that runs the lints -/

theorem Build.hasErrors_iff {b : Build} :
    b.hasErrors = true ↔ ∃ x ∈ b.diagnostics, x.severity = .error := by
  simp [hasErrors, count, Diagnostic.count]

/-- A build with the findings of its document. -/
def Build.examined (b : Build) : Build :=
  { b with diagnostics := b.diagnostics ++ b.document.findings }

/-- **The findings are kept whether the phase fails or not.** -/
theorem Phase.run_validate_eq (b : Build) : (Phase.validate).run b = (b.examined,
    if b.examined.hasErrors then .error (.findings (b.examined.count .error)) else .ok ()) := by
  rw [Build.examined, ← Document.flatMap_check_standard]
  rfl

namespace Pipeline

variable {c : Config} {root : Path} {d : Document}

/-- One phase of a run. -/
theorem runPhases_cons {phase : Phase} {phases : List Phase} {before after : Build}
    (h : phase.run before = (after, .ok ())) :
    (runPhases (phase :: phases) before).map (·.1) = (runPhases phases after).map (·.1) := by
  rw [runPhases, h]
  dsimp only
  cases runPhases phases after <;> rfl

/-! ## 3. The phases -/

/-- Lints add to what is known of the document, and fail only if there have been errors before. -/
theorem run_validate {b : Build} (hb : ∀ x ∈ b.diagnostics, x.severity ≠ .error) :
    (Phase.validate).run b = ({ b with
      diagnostics := b.diagnostics ++ Lint.standard.flatMap (·.check b.document) }, .ok ()) := by
  have hnone : b.examined.hasErrors = false := by
    rw [Bool.eq_false_iff, ne_eq, Build.hasErrors_iff]
    rintro ⟨x, hx, herror⟩
    rcases List.mem_append.mp hx with hx | hx
    · exact hb x hx herror
    · rw [← Document.flatMap_check_standard] at hx
      exact Lint.severity_of_standard b.document x hx herror
  rw [Phase.run_validate_eq, hnone, Document.flatMap_check_standard]
  rfl

theorem run_convert {mapper : TypeMapper} {b : Build} {es : List Entity}
    (h : b.document.entities mapper b.config.decoration = .ok es) :
    (Phase.convert mapper).run b = ({ b with entities := some es }, .ok ()) := by
  simp only [Phase.convert, h]

theorem run_place {extension : String} {b : Build} {es : List Entity} {batch : Batch}
    (hes : b.entities = some es)
    (h : (Batch.ofEntities es).placeAll
      (.ofLayout b.config.layout b.outputDirectory extension) = (batch, .ok ())) :
    (Phase.place extension).run b
      = ({ b with entities := none, batch := some batch }, .ok ()) := by
  have htake : b.takeEntities = ({ b with entities := none }, .ok es) := by
    rw [Build.takeEntities, hes]
  have hplace : (Batch.ofEntities es).placeAll
      (Phase.placementOf extension { b with entities := none }) = (batch, .ok ()) := h
  simp only [Phase.place, htake, hplace]

theorem run_register {b : Build} {batch : Batch} (hb : b.batch = some batch) :
    Phase.register.run b
      = ({ b with batch := some (batch.registerAll b.config.enumModule) }, .ok ()) := by
  simp only [Phase.register, hb]

/-- The last phase fails if the batch cannot be resolved. -/
theorem run_resolve_eq {b : Build} {batch : Batch} (hb : b.batch = some batch) :
    Phase.resolve.run b = ({ b with batch := some (batch.resolveAll ⟨b.root⟩).1 },
      (liftGenerate (batch.resolveAll ⟨b.root⟩).2).map fun _ => ()) := by
  simp only [Phase.resolve, hb]

theorem run_resolve {b : Build} {batch resolved : Batch} {count : Nat} (hb : b.batch = some batch)
    (h : batch.resolveAll ⟨b.root⟩ = (resolved, .ok count)) :
    Phase.resolve.run b = ({ b with batch := some resolved }, .ok ()) := by
  rw [run_resolve_eq hb, h]
  rfl

end Pipeline

/-! ## 4. The batch of a well-formed document -/

namespace Document

variable {d : Document} (hd : d.WellFormed)

include hd

theorem isPlain_kebab : ∀ m ∈ d.models, IsPlain (Naming.kebab m.name) := fun m hm =>
  Naming.isPlain_kebab (hd.names_usable m hm).2

theorem entities_of_wellFormed (mapper : TypeMapper) (decoration : Decoration) :
    d.entities mapper decoration = .ok (d.models.map (·.converted mapper decoration)) :=
  entities_eq_ok_iff.mpr ⟨fun m hm f hf => (hd.fields_sound m hm f hf).typed,
    fun m hm f hf => (hd.fields_sound m hm f hf).target, rfl⟩

/-- **No two files meet**, since their names differ in lowercase words too. -/
theorem placeAll_of_wellFormed (c : Config) (root : Path) :
    (Batch.ofEntities (d.models.map (·.converted .typeScript c.decoration))).placeAll
        (.ofLayout c.layout (c.outputPath root) "ts")
      = (⟨d.models.map (·.placedFile c root)⟩, .ok ()) := by
  have hnames : ((d.models.map (·.converted .typeScript c.decoration)).map (·.name)).Nodup := by
    rw [List.map_map]
    exact hd.models_nodup
  have hlocate : ∀ m : Model, ClassFile.locate (.ofLayout c.layout (c.outputPath root) "ts")
      { entity := m.converted .typeScript c.decoration } = c.location root m.name := fun m =>
    Layout.ofLayout_eq_location c.layout (c.outputPath root) "ts" _
  have hpair : d.models.Pairwise fun m n =>
      ¬ (c.location root n.name).path.SamePlace (c.location root m.name).path := by
    have hkebab : d.models.Pairwise fun m n => Naming.kebab m.name ≠ Naming.kebab n.name :=
      List.pairwise_map.mp hd.files_nodup
    refine hkebab.imp_of_mem fun hm hn hne hsame => hne ?_
    exact (Layout.kebab_of_samePlace (isPlain_kebab hd _ hn) (isPlain_kebab hd _ hm) (by decide)
      (by decide) hsame).symm
  rw [Batch.ofEntities_of_nodup hnames, List.map_map, Batch.placeAll_eq_ok, List.map_map]
  · congr 2
    refine List.map_congr_left fun m _ => ?_
    simp only [Function.comp, ClassFile.place, hlocate, Model.placedFile]
  · dsimp only
    rw [List.pairwise_map]
    simpa only [Function.comp, hlocate] using hpair

/-- Every target of a relation leads to the place of a file. -/
theorem lookup_target (pathOf : String → Path) : ∀ m ∈ d.models, ∀ t ∈ m.targets,
    (d.models.map fun n => (n.name, pathOf n.name)).lookup t = some (pathOf t) := by
  intro m hm t ht
  obtain ⟨-, f, hf, hrel, hb⟩ := Model.mem_targets.mp ht
  obtain ⟨n, hn, rfl⟩ := (hd.fields_sound m hm f hf).target t hb hrel
  have hlookup := Batch.lookup_locations pathOf (List.mem_map_of_mem (f := Model.name) hn)
  rwa [List.map_map] at hlookup

/-- **Every import is resolved**, and each file becomes what its model says. -/
theorem resolveAll_of_wellFormed {c : Config} (root : Path)
    (henum : IsModuleName c.enumModule)
    (hdec : IsModuleName c.decoratorModule) :
    (⟨d.models.map (·.pendingFile c root)⟩ : Batch).resolveAll ⟨root⟩
      = (⟨d.models.map (·.file c root)⟩,
          .ok (d.models.foldr (fun m total => m.targets.length + total) 0)) := by
  have hlocations : (⟨d.models.map (·.pendingFile c root)⟩ : Batch).locations
      = .ok (d.models.map fun n => (n.name, (c.location root n.name).path)) :=
    Batch.locations_eq_ok fun m _ => rfl
  have hresolve : ∀ m ∈ d.models, (m.pendingFile c root).resolve
      (d.models.map fun n => (n.name, (c.location root n.name).path)) ⟨root⟩
        = .ok (m.file c root, m.targets.length) := fun m hm =>
    ClassFile.resolve_registered .typeScript (c.location root m.name) ⟨root⟩ henum hdec
      (lookup_target hd (fun name => (c.location root name).path) m hm)
  rw [Batch.resolveAll, hlocations]
  dsimp only
  rw [Batch.resolveFiles_eq_ok hresolve]

/-- **Only resolution can fail on a well-formed document**, since only there it matters what modules
are called. -/
theorem run_eq_resolve (c : Config) (root : Path) :
    Pipeline.typeScript.run d c root
      = (Pipeline.runPhases [Phase.resolve] (d.pending c root)).map (·.1) := by
  have hregister : (⟨d.models.map (·.placedFile c root)⟩ : Batch).registerAll c.enumModule
      = ⟨d.models.map (·.pendingFile c root)⟩ := by
    rw [Batch.registerAll, List.map_map]
    rfl
  have hvalidate : (Phase.validate).run { document := d, config := c, root }
      = (d.linted c root, .ok ()) :=
    Pipeline.run_validate fun x hx => absurd hx List.not_mem_nil
  have hconvert : (Phase.convert .typeScript).run (d.linted c root) = _ :=
    Pipeline.run_convert (entities_of_wellFormed hd .typeScript c.decoration)
  have hplace := placeAll_of_wellFormed hd c root
  rw [Pipeline.run, Pipeline.runLogged, Pipeline.typeScript, Pipeline.standard]
  dsimp only
  rw [Pipeline.runPhases_cons hvalidate, Pipeline.runPhases_cons hconvert,
    Pipeline.runPhases_cons (Pipeline.run_place rfl hplace),
    Pipeline.runPhases_cons (Pipeline.run_register rfl)]
  dsimp only [Document.linted]
  rw [hregister]
  rfl

/-- **The run on a well-formed document.** -/
theorem run_eq_built {c : Config} (root : Path) (henum : IsModuleName c.enumModule)
    (hdec : IsModuleName c.decoratorModule) :
    Pipeline.typeScript.run d c root = .ok (d.built c root) := by
  have hresolve := resolveAll_of_wellFormed hd root henum hdec
  rw [run_eq_resolve hd c root, Pipeline.runPhases_cons (Pipeline.run_resolve rfl hresolve)]
  rfl

end Document

/-! ## 5. What a run promises -/

namespace Model

variable {c : Config} (root : Path) (m : Model)

/-- Nothing that a file imports is a placeholder. -/
theorem unresolved_file (henum : IsModuleName c.enumModule)
    (hdec : IsModuleName c.decoratorModule) : (m.file c root).imports.unresolved = [] := by
  refine ImportList.unresolved_of_modules fun p hp => ?_
  rcases List.mem_append.mp hp with hp | hp
  · obtain ⟨t, -, rfl⟩ := List.mem_map.mp hp
    obtain ⟨rest, hrest⟩ := (⟨root⟩ : Path.Resolver).exists_dot_specifier
      (c.location root m.name).path (c.location root t).path
    dsimp only
    exact isModuleName_of_dot hrest
  · exact m.isModuleName_of_mem_moduleImports henum hdec p hp

/-- Every file imports the decorator of its class. -/
theorem records_file_ne_nil : (m.file c root).imports.records ≠ [] := by
  have hmem : (entityTagName, c.decoratorModule) ∈ m.directImports c.decoration c.enumModule
      fun t => (⟨root⟩ : Path.Resolver).specifier (c.location root m.name).path
        (c.location root t).path := by
    simp [directImports, moduleImports, Config.decoration]
  obtain ⟨r, hr, -⟩ := ImportList.exists_record_iff.mpr hmem
  exact List.ne_nil_of_mem hr

theorem render_file (henum : IsModuleName c.enumModule)
    (hdec : IsModuleName c.decoratorModule) :
    (m.file c root).render .classFile = .ok (m.file c root).text :=
  ClassFile.render_eq_ok rfl (m.unresolved_file root henum hdec) (m.records_file_ne_nil root)

end Model

namespace Document

variable {d : Document} {c : Config}

/-- **The texts of all files**, in the order of the document. -/
theorem renderAll_built (d : Document) (root : Path) (henum : IsModuleName c.enumModule)
    (hdec : IsModuleName c.decoratorModule) :
    (⟨d.models.map (·.file c root)⟩ : Batch).renderAll .classFile
      = .ok (d.models.map fun m => ⟨(c.location root m.name).path, (m.file c root).text⟩) :=
  Batch.renderAll_eq_ok (fun _ _ => rfl) fun m _ => m.render_file root henum hdec

theorem run_built_of_validate (root : Path) (hd : d.validate = .ok ())
    (henum : IsModuleName c.enumModule) (hdec : IsModuleName c.decoratorModule) :
    Pipeline.typeScript.run d c root = .ok (d.built c root) :=
  run_eq_built ((validate_decides d).ok_iff.mp hd) root henum hdec

/-- The batch of a document that has been accepted. -/
theorem batch_of_validate (root : Path) (hd : d.validate = .ok ())
    (henum : IsModuleName c.enumModule) (hdec : IsModuleName c.decoratorModule) :
    d.batch c root = .ok ⟨d.models.map (·.file c root)⟩ := by
  rw [batch, run_built_of_validate root hd henum hdec]
  rfl

/-- **A document that has been accepted is generated**: no phase fails, no lint finds an error, and
there is a text for every model, in the order of the document. -/
theorem run_of_validate (root : Path) (hd : d.validate = .ok ())
    (henum : IsModuleName c.enumModule) (hdec : IsModuleName c.decoratorModule) :
    ∃ build batch outputs,
      Pipeline.typeScript.run d c root = .ok build ∧ build.batch = some batch ∧
      batch.renderAll .classFile = .ok outputs ∧
      d.entities .typeScript c.decoration = .ok (batch.files.map (·.entity)) ∧
      batch.files.map (·.entity.name) = d.models.map (·.name) ∧
      outputs.map (fun o => some o.path) = batch.files.map (·.path?) ∧
      outputs.length = d.models.length ∧
      ∀ x ∈ build.diagnostics, x.severity ≠ .error := by
  have hwf : d.WellFormed := (validate_decides d).ok_iff.mp hd
  refine ⟨d.built c root, ⟨d.models.map (·.file c root)⟩, _, run_eq_built hwf root henum hdec, rfl,
    renderAll_built d root henum hdec, ?_, ?_, ?_, ?_, Lint.severity_of_standard d⟩
  · rw [entities_of_wellFormed hwf, List.map_map]
    rfl
  · rw [List.map_map]
    rfl
  · rw [List.map_map, List.map_map]
    rfl
  · rw [List.length_map]

/-- Two models that relate to each other, and one of them to itself. -/
def blog : Document :=
  ⟨[⟨"User", [{ name := "posts", kind := .object, baseType := some "Post", isList := true,
                relationName := some "PostToUser" }]⟩,
    ⟨"Post", [{ name := "author", kind := .object, baseType := some "User",
                relationName := some "PostToUser" },
              { name := "answerTo", kind := .object, baseType := some "Post",
                relationName := some "Answers" }]⟩]⟩

/-- Documented classes, each in a directory of its own, outside of the project. -/
def blogConfig : Config :=
  { input := ⟨"blog.json"⟩, output := ⟨"../generated"⟩, layout := .nested, swagger := true }

theorem validate_blog : blog.validate = .ok () := by rfl

theorem run_of_validate_blog :
    blog.validate = .ok () ∧ IsModuleName blogConfig.enumModule ∧
      IsModuleName blogConfig.decoratorModule ∧
      ∃ build batch outputs,
        Pipeline.typeScript.run blog blogConfig ⟨"project"⟩ = .ok build ∧
        build.batch = some batch ∧ batch.renderAll .classFile = .ok outputs ∧
        batch.files.map (·.entity.name) = ["User", "Post"] ∧ outputs.length = 2 := by
  have henum : IsModuleName blogConfig.enumModule := by decide
  have hdec : IsModuleName blogConfig.decoratorModule := by decide
  obtain ⟨build, batch, outputs, hrun, hbatch, hrender, -, hnames, -, hlength, -⟩ :=
    run_of_validate ⟨"project"⟩ validate_blog henum hdec
  exact ⟨validate_blog, henum, hdec, build, batch, outputs, hrun, hbatch, hrender, hnames, hlength⟩

end Document

end SchemaClass
