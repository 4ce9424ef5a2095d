import SchemaClass.Proofs.Build.Coherent
/-!
# The model behind each file

A run keeps the entities of a document under their names.  So there is a file for each name and not
for each model: of several models that have one name only the last has a file, and nothing is said
of the others.  A document that has been accepted has no such models, but a run does not ask whether
its document has been accepted.

* `holds_of_batch`: what is in the batch of any run that succeeds;
* `models_of_batch`: the model of each file, and when every model has one;
* `lost_model_rivals`: two models of which one has no file.
-/

namespace SchemaClass

open OrderedSet Outcome

/-- The class in a file is that of a model, with all its fields. -/
def ClassFile.Carries (decoration : Decoration) (m : Model) (f : ClassFile) : Prop :=
  m.entity .typeScript decoration = .ok f.entity ∧
    f.entity.properties.map (·.name) = m.fields.map (·.name)

theorem Model.carries_of_entity {decoration : Decoration} {m : Model} {f : ClassFile}
    (htyped : ∀ x ∈ m.fields, x.IsTyped) (h : m.converted .typeScript decoration = f.entity) :
    f.Carries decoration m := by
  refine ⟨entity_eq_ok_iff.mpr ⟨htyped, h.symm⟩, ?_⟩
  rw [← h, converted, List.map_map]
  rfl

theorem findRev?_map {α β : Type} (g : α → β) (p : β → Bool) (as : List α) :
    (as.map g).findRev? p = (as.findRev? (p ∘ g)).map g := by
  rw [List.findRev?_eq_find?_reverse, List.findRev?_eq_find?_reverse, ← List.map_reverse,
    List.find?_map]

/-- What can be taken out of a build is in it. -/
theorem Build.batch_of_takeBatch {build : Build} {b : Batch} (h : build.takeBatch.2 = .ok b) :
    build.batch = some b := by
  rw [takeBatch] at h
  split at h
  · next hmade => exact hmade.trans (congrArg some (Except.ok.inj h))
  · cases h

namespace Document

variable {d : Document} {c : Config} {root : Path} {b : Batch}

/-- A batch is what a run ends with. -/
theorem exists_run_of_batch (h : d.batch c root = .ok b) :
    ∃ build, Pipeline.typeScript.run d c root = .ok build ∧ build.batch = some b := by
  obtain ⟨build, hrun, htake⟩ := bind_eq_ok.mp h
  exact ⟨build, hrun, Build.batch_of_takeBatch htake⟩

/-- **What is in the batch of a run**, whatever the document and the modules are. -/
theorem holds_of_batch (h : d.batch c root = .ok b) : ∃ es,
    d.entities .typeScript c.decoration = .ok es ∧
      b.Holds (.ofLayout c.layout (c.outputPath root) "ts") es := by
  obtain ⟨build, hrun, hbatch⟩ := exists_run_of_batch h
  have hcoherent : build.Coherent .typeScript "ts" := Build.coherent_of_run hrun
  have hafter : (Build.initial d c root).after .typeScript "ts" Stage.inOrder = build :=
    Build.after_of_run hrun
  have hcontinues := Build.continues_after .typeScript "ts" (Build.initial d c root) Stage.inOrder
  rw [hafter] at hcontinues
  obtain ⟨rfl, rfl, rfl, -⟩ := hcontinues
  exact hcoherent.placed b hbatch

/-- **Every name has a file, and in it is the last model of that name.**  So every model has a file
exactly if no two models have one name, and then the files are in the order of the models. -/
theorem models_of_batch (d : Document) (c : Config) (root : Path) {b : Batch}
    (h : d.batch c root = .ok b) :
    b.files.map (·.entity.name) = (d.models.map (·.name)).eraseDups ∧
    (∀ f ∈ b.files, (∃ path, f.path? = some path) ∧
      ∃ m, d.models.findRev? (·.name == f.entity.name) = some m ∧ f.Carries c.decoration m) ∧
    (b.files.filterMap (·.path?)).Pairwise (fun p q => ¬ p.SamePlace q) ∧
    (b.files.length = d.models.length ↔ (d.models.map (·.name)).Nodup) ∧
    ((d.models.map (·.name)).Nodup → ∀ (i : Nat) (m : Model), d.models[i]? = some m →
      ∃ f, b.files[i]? = some f ∧ f.Carries c.decoration m) := by
  obtain ⟨es, hes, hholds⟩ := holds_of_batch h
  obtain ⟨htyped, -, rfl⟩ := entities_eq_ok_iff.mp hes
  have hnames : b.files.map (·.entity.name) = distinct (d.models.map (·.name)) := by
    rw [hholds.names, List.map_map, ← distinct_eq_eraseDups]
    rfl
  refine ⟨?_, ?_, hholds.paths_apart, ?_, ?_⟩
  · rw [hnames, distinct_eq_eraseDups]
  · intro f hf
    refine ⟨⟨_, by rw [ClassFile.path?, hholds.location hf, Option.map_some]⟩, ?_⟩
    have hlast := hholds.last hf
    rw [findRev?_map, Option.map_eq_some_iff] at hlast
    obtain ⟨m, hm, hentity⟩ := hlast
    have hmem : m ∈ d.models := by
      rw [List.findRev?_eq_find?_reverse] at hm
      exact List.mem_reverse.mp (List.mem_of_find?_eq_some hm)
    exact ⟨m, hm, Model.carries_of_entity (htyped m hmem) hentity⟩
  · have hlength : b.files.length = (distinct (d.models.map (·.name))).length := by
      rw [← hnames, List.length_map]
    rw [hlength, ← length_distinct_eq_iff, List.length_map]
  · intro hnd i m hm
    have hentities : b.files.map (·.entity) = d.models.map (·.converted .typeScript c.decoration) :=
      hholds.entities_of_nodup (by rw [List.map_map]; exact hnd)
    have hentity : (b.files.map (·.entity))[i]? = some (m.converted .typeScript c.decoration) := by
      rw [hentities, List.getElem?_map, hm]
      rfl
    rw [List.getElem?_map, Option.map_eq_some_iff] at hentity
    obtain ⟨f, hf, heq⟩ := hentity
    exact ⟨f, hf, Model.carries_of_entity (htyped m (List.mem_of_getElem? hm)) heq.symm⟩

theorem models_of_batch_blog : ∃ b, blog.batch blogConfig ⟨"project"⟩ = .ok b ∧
    b.files.length = 2 ∧ ∃ f, b.files[1]? = some f ∧ f.entity.name = "Post" ∧
      f.entity.properties.map (·.name) = ["author", "answerTo"] := by
  have hbatch := batch_of_validate (c := blogConfig) ⟨"project"⟩ validate_blog (by decide)
    (by decide)
  obtain ⟨-, -, -, hlength, hposition⟩ := models_of_batch blog blogConfig ⟨"project"⟩ hbatch
  have hnd : (blog.models.map (·.name)).Nodup := by decide
  obtain ⟨f, hf, hentity, hfields⟩ := hposition hnd 1 _ rfl
  refine ⟨_, hbatch, hlength.mpr hnd, f, hf, ?_, hfields⟩
  rw [(Model.entity_eq_ok_iff.mp hentity).2]
  rfl

/-- Two models of one name. -/
def rivals : Document :=
  ⟨[⟨"User", [{ name := "id", baseType := some "Int" }]⟩,
    ⟨"User", [{ name := "email", baseType := some "String" }]⟩]⟩

/-- **A model without a file**: the run succeeds, and the first of two models is not generated. -/
theorem lost_model_rivals : rivals.models.length = 2 ∧
    ∃ b, rivals.batch { input := ⟨"schema.json"⟩ } ⟨"/project"⟩ = .ok b ∧ b.files.length = 1 ∧
      ∀ f ∈ b.files, f.entity.properties.map (·.name) = ["email"] := by
  have heval : (rivals.batch { input := ⟨"schema.json"⟩ } ⟨"/project"⟩).toOption.map
      (fun b => b.files.map fun f => f.entity.properties.map (·.name)) = some [["email"]] := by
    decide +kernel
  refine ⟨rfl, ?_⟩
  cases hbatch : rivals.batch { input := ⟨"schema.json"⟩ } ⟨"/project"⟩ with
  | error e =>
    rw [hbatch] at heval
    cases heval
  | ok b =>
    rw [hbatch] at heval
    have hfields : (b.files.map fun f => f.entity.properties.map (·.name)) = [["email"]] :=
      Option.some.inj heval
    refine ⟨b, rfl, ?_, ?_⟩
    · rw [← List.length_map fun f : ClassFile => f.entity.properties.map (·.name), hfields]
      rfl
    · intro f hf
      have hmem : f.entity.properties.map (·.name)
          ∈ b.files.map fun f => f.entity.properties.map (·.name) := List.mem_map_of_mem hf
      rw [hfields] at hmem
      exact List.mem_singleton.mp hmem

end Document

end SchemaClass
