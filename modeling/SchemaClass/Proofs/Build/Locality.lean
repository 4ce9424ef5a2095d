import Mathlib.Data.List.Perm.Basic
import SchemaClass.Proofs.Build.Links
/-!
# What a file depends on

A file refers to others, and its specifiers are read off the places of all files of a run.  But
these places follow from the names of the models, so the file of a model is the same beside any
other models, in any order.  And they share the output directory, which a specifier leaves out, so
the text of a file is the same wherever the project and its output are.

* `outputs_built`: the outputs of a run, each told by its model alone;
* `validate_perm`: the order of the models does not matter to validation either;
* `files_of_shared_models`: two documents, and the models that they share;
* `directImports_moved`, `text_moved`: a file in two projects with two output directories;
* `texts_of_moved_project`: one document, generated in two places.
-/

namespace SchemaClass

open SchemaClass.Path

/-- What is written for a model. -/
def Model.output (c : Config) (root : Path) (m : Model) : OutputFile :=
  ⟨(c.location root m.name).path, (m.file c root).text⟩

/-- The file of a model stands at `i` in a batch, and what is written for it at `i` among the
outputs. -/
structure Batch.Yields (b : Batch) (os : List OutputFile) (i : Nat) (m : Model) (f : ClassFile)
    (o : OutputFile) : Prop where
  file : b.files[i]? = some f
  name : f.entity.name = m.name
  output : os[i]? = some o
  path : f.path? = some o.path
  text : f.render .classFile = .ok o.content

namespace Document

variable {d d' : Document} {c : Config}

/-! ## 1. One document -/

/-- **What is written for each model** follows from that model alone. -/
theorem outputs_built (d : Document) (root : Path) (henum : IsModuleName c.enumModule)
    (hdec : IsModuleName c.decoratorModule) :
    (⟨d.models.map (·.file c root)⟩ : Batch).outputs = .ok (d.models.map (·.output c root)) := by
  rw [Batch.outputs, renderAll_built d root henum hdec]
  rfl

theorem yields_built (root : Path) (henum : IsModuleName c.enumModule)
    (hdec : IsModuleName c.decoratorModule) {i : Nat} {m : Model} (h : d.models[i]? = some m) :
    (⟨d.models.map (·.file c root)⟩ : Batch).Yields (d.models.map (·.output c root)) i m
      (m.file c root) (m.output c root) where
  file := by rw [List.getElem?_map, h, Option.map_some]
  name := rfl
  output := by rw [List.getElem?_map, h, Option.map_some]
  path := rfl
  text := m.render_file root henum hdec

/-! ## 2. Two documents -/

/-- **A document that has been accepted is accepted in any order.** -/
theorem validate_perm (h : d.models.Perm d'.models) (hd : d.validate = .ok ()) :
    d'.validate = .ok () := by
  have hwf : d.WellFormed := (validate_decides d).ok_iff.mp hd
  refine (validate_decides d').ok_iff.mpr ?_
  constructor
  · exact (h.map _).nodup_iff.mp hwf.models_nodup
  · exact fun m hm => hwf.names_usable m (h.mem_iff.mpr hm)
  · exact (h.map _).nodup_iff.mp hwf.classes_nodup
  · exact (h.map _).nodup_iff.mp hwf.files_nodup
  · exact fun m hm => hwf.fields_nodup m (h.mem_iff.mpr hm)
  · intro m hm f hf
    have hfield := hwf.fields_sound m (h.mem_iff.mpr hm) f hf
    refine ⟨hfield.name_spelled, hfield.typed, hfield.type_spelled, fun base hb hrel => ?_⟩
    obtain ⟨t, ht, hname⟩ := hfield.target base hb hrel
    exact ⟨t, h.mem_iff.mp ht, hname⟩

/-- **Models that two documents share have the same files.**  Other models and the order do not
matter: a permutation of the models permutes the outputs, and further models leave those that are
there as they are. -/
theorem files_of_shared_models (d : Document) (c : Config) (root : Path)
    (hd : d.validate = .ok ()) (henum : IsModuleName c.enumModule)
    (hdec : IsModuleName c.decoratorModule) :
    ∃ b os, d.batch c root = .ok b ∧ b.outputs = .ok os ∧ os.length = d.models.length ∧
      (∀ d' : Document, d'.validate = .ok () → ∃ b' os',
        d'.batch c root = .ok b' ∧ b'.outputs = .ok os' ∧ os'.length = d'.models.length ∧
        (∀ (i j : Nat) (m : Model), d.models[i]? = some m → d'.models[j]? = some m →
          ∃ f o, b.Yields os i m f o ∧ b'.Yields os' j m f o) ∧
        (d.models.Sublist d'.models → os.Sublist os')) ∧
      (∀ d' : Document, d.models.Perm d'.models → ∃ b' os',
        d'.batch c root = .ok b' ∧ b'.outputs = .ok os' ∧ os.Perm os') := by
  refine ⟨_, _, batch_of_validate root hd henum hdec, outputs_built d root henum hdec,
    List.length_map _, ?_, ?_⟩
  · intro d' hd'
    refine ⟨_, _, batch_of_validate root hd' henum hdec, outputs_built d' root henum hdec,
      List.length_map _, ?_, fun h => h.map _⟩
    intro i j m hi hj
    exact ⟨_, _, yields_built root henum hdec hi, yields_built root henum hdec hj⟩
  · intro d' hperm
    exact ⟨_, _, batch_of_validate root (validate_perm hperm hd) henum hdec,
      outputs_built d' root henum hdec, hperm.map _⟩

/-- The models of the blog in another order, with one more between them. -/
def taggedBlog : Document :=
  ⟨blog.models.drop 1 ++ ⟨"Tag", []⟩ :: blog.models.take 1⟩

theorem validate_taggedBlog : taggedBlog.validate = .ok () := by rfl

theorem files_of_shared_models_blog :
    blog.validate = .ok () ∧ IsModuleName blogConfig.enumModule ∧
      IsModuleName blogConfig.decoratorModule ∧ taggedBlog.validate = .ok () ∧
      ∃ b b' os os' m f o, blog.batch blogConfig ⟨"project"⟩ = .ok b ∧
        taggedBlog.batch blogConfig ⟨"project"⟩ = .ok b' ∧
        b.outputs = .ok os ∧ b'.outputs = .ok os' ∧ m.name = "User" ∧
        b.Yields os 0 m f o ∧ b'.Yields os' 2 m f o := by
  have henum : IsModuleName blogConfig.enumModule := by decide
  have hdec : IsModuleName blogConfig.decoratorModule := by decide
  obtain ⟨b, os, hb, hos, -, hshared, -⟩ :=
    files_of_shared_models blog blogConfig ⟨"project"⟩ validate_blog henum hdec
  obtain ⟨b', os', hb', hos', -, hfiles, -⟩ := hshared taggedBlog validate_taggedBlog
  obtain ⟨f, o, hf, hf'⟩ := hfiles 0 2 _ rfl rfl
  exact ⟨validate_blog, henum, hdec, validate_taggedBlog, b, b', os, os', _, f, o, hb, hb', hos,
    hos', rfl, hf, hf'⟩

/-! ## 3. Two projects -/

/-- **The specifiers of a file leave the output directory out**, wherever it is. -/
theorem directImports_moved (hd : d.WellFormed) (root root' output output' : Path) {m : Model}
    (hm : m ∈ d.models) :
    (m.directImports c.decoration c.enumModule fun t => (⟨root⟩ : Resolver).specifier
        (c.layout.location output "ts" m.name).path (c.layout.location output "ts" t).path)
      = m.directImports c.decoration c.enumModule fun t => (⟨root'⟩ : Resolver).specifier
        (c.layout.location output' "ts" m.name).path
        (c.layout.location output' "ts" t).path := by
  refine congrArg (· ++ m.moduleImports c.decoration c.enumModule)
    (List.map_congr_left fun t ht => ?_)
  obtain ⟨hne, f, hf, hrel, hb⟩ := Model.mem_targets.mp ht
  obtain ⟨n, hn, rfl⟩ := (hd.fields_sound m hm f hf).target t hb hrel
  exact congrArg (Prod.mk (Naming.pascal n.name)) (Layout.specifier_moved (isPlain_kebab hd m hm)
    (isPlain_kebab hd n hn) (by decide) (by decide) ⟨root⟩ ⟨root'⟩ output'
    (kebab_ne hd hm hn hne.symm))

/-- **The text of a file is the same in any project**, with any output directory. -/
theorem text_moved (hd : d.WellFormed) (root root' output output' : Path) {m : Model}
    (hm : m ∈ d.models) :
    (m.file { c with output := output } root).text
      = (m.file { c with output := output' } root').text := by
  have himports : (m.file { c with output := output } root).imports
      = (m.file { c with output := output' } root').imports :=
    congrArg ({} : ImportList).registerAll
      (directImports_moved (c := c) hd root root' (root.join output) (root'.join output') hm)
  have hentity : (m.file { c with output := output } root).entity
      = (m.file { c with output := output' } root').entity := rfl
  rw [ClassFile.text, ClassFile.text, ClassFile.statements, ClassFile.statements, himports, hentity]

/-- **A document is generated with the same texts everywhere**, at the same places of the output
directory. -/
theorem texts_of_moved_project (d : Document) (c : Config) (root root' output output' : Path)
    (hd : d.validate = .ok ()) (henum : IsModuleName c.enumModule)
    (hdec : IsModuleName c.decoratorModule) :
    ∃ b b' os os', d.batch { c with output := output } root = .ok b ∧
      d.batch { c with output := output' } root' = .ok b' ∧
      b.outputs = .ok os ∧ b'.outputs = .ok os' ∧
      os.length = d.models.length ∧ os'.length = d.models.length ∧
      ∀ (i : Nat) (m : Model), d.models[i]? = some m → ∃ f f' o o' place,
        b.Yields os i m f o ∧ b'.Yields os' i m f' o' ∧ o.content = o'.content ∧
        o.path.relativeTo? (root.join output) = some place ∧
        o'.path.relativeTo? (root'.join output') = some place := by
  have hwf : d.WellFormed := (validate_decides d).ok_iff.mp hd
  refine ⟨_, _, _, _, batch_of_validate (c := { c with output := output }) root hd henum hdec,
    batch_of_validate (c := { c with output := output' }) root' hd henum hdec,
    outputs_built (c := { c with output := output }) d root henum hdec,
    outputs_built (c := { c with output := output' }) d root' henum hdec, List.length_map _,
    List.length_map _, ?_⟩
  intro i m hi
  have hm : m ∈ d.models := List.mem_of_getElem? hi
  have hplace : ∀ root output : Path,
      (({ c with output := output } : Config).location root m.name).path.relativeTo?
        (root.join output) = some (c.layout.location ⟨[]⟩ "ts" m.name).path := fun _ _ =>
    Layout.relativeTo?_location (isPlain_kebab hwf m hm) (by decide) (by decide)
  exact ⟨_, _, _, _, _, yields_built (c := { c with output := output }) root henum hdec hi,
    yields_built (c := { c with output := output' }) root' henum hdec hi,
    text_moved hwf root root' output output' hm, hplace root output, hplace root' output'⟩

theorem texts_of_moved_project_blog :
    blog.validate = .ok () ∧ IsModuleName blogConfig.enumModule ∧
      IsModuleName blogConfig.decoratorModule ∧
      ∃ b b' os os' m f f' o o' place,
        blog.batch { blogConfig with output := ⟨"../generated"⟩ } ⟨"project"⟩ = .ok b ∧
        blog.batch { blogConfig with output := ⟨""⟩ } ⟨"/"⟩ = .ok b' ∧
        b.outputs = .ok os ∧ b'.outputs = .ok os' ∧ m.name = "Post" ∧
        b.Yields os 1 m f o ∧ b'.Yields os' 1 m f' o' ∧ o.content = o'.content ∧
        o.path.relativeTo? ⟨"project/../generated"⟩ = some place ∧
        o'.path.relativeTo? ⟨"/"⟩ = some place := by
  have henum : IsModuleName blogConfig.enumModule := by decide
  have hdec : IsModuleName blogConfig.decoratorModule := by decide
  obtain ⟨b, b', os, os', hb, hb', hos, hos', -, -, hfiles⟩ :=
    texts_of_moved_project blog blogConfig ⟨"project"⟩ ⟨"/"⟩ ⟨"../generated"⟩ ⟨""⟩ validate_blog
      henum hdec
  obtain ⟨f, f', o, o', place, hf, hf', htext, hplace, hplace'⟩ := hfiles 1 _ rfl
  have hdirectory : (⟨"project"⟩ : Path).join ⟨"../generated"⟩ = ⟨"project/../generated"⟩ := by
    decide
  have hdirectory' : (⟨"/"⟩ : Path).join ⟨""⟩ = ⟨"/"⟩ := by decide
  rw [hdirectory] at hplace
  rw [hdirectory'] at hplace'
  exact ⟨validate_blog, henum, hdec, b, b', os, os', _, f, f', o, o', place, hb, hb', hos, hos',
    rfl, hf, hf', htext, hplace, hplace'⟩

end Document

end SchemaClass
