import SchemaClass.Proofs.Build.Stages
/-!
# What is true between phases

Phases may have been run in any order, and some of them may have failed.  What is known of a build
all the same is an invariant of the single phases, and from it follows when a phase fails.

* `Build.Coherent`: no errors have been found, entities and batch are those of the document;
* `coherent_run`: one phase keeps this, whether it succeeds or not;
* `coherent_after`: so does any sequence of phases;
* `closed_run`: no file ever waits for a model that is not there, if modules are no placeholders;
* `place_fails_iff`, `resolve_fails_iff` and their neighbours: when a phase fails;
* `state_of_stages`: all of this of any sequence of phases on a new build.
-/

namespace SchemaClass

namespace Build

/-! ## 1. The invariant -/

/-- What the phases rely on.  The entities are gone once they have been placed, and the batch may be
an older one than the entities that are there. -/
structure Coherent (mapper : TypeMapper) (extension : String) (b : Build) : Prop where
  /-- No lint has found an error. -/
  calm : ∀ x ∈ b.diagnostics, x.severity ≠ .error
  /-- The entities are those of the document. -/
  converted : ∀ es, b.entities = some es →
    b.document.entities mapper b.config.decoration = .ok es
  /-- The batch holds the entities of the document, each in its place. -/
  placed : ∀ batch, b.batch = some batch → ∃ es,
    b.document.entities mapper b.config.decoration = .ok es ∧
      batch.Holds (Phase.placementOf extension b) es

/-- The files of the batch wait for files of the batch only. -/
def Closed (b : Build) : Prop := ∀ batch, b.batch = some batch → batch.Closed

variable {mapper : TypeMapper} {extension : String} {b : Build}

theorem coherent_initial (d : Document) (c : Config) (root : Path) :
    (initial d c root).Coherent mapper extension :=
  ⟨fun _ hx => absurd hx List.not_mem_nil, nofun, nofun⟩

/-- Registration and resolution change the imports of the batch only. -/
theorem Coherent.of_frames (h : b.Coherent mapper extension) {batch batch' : Batch}
    (hbatch : b.batch = some batch) (hframes : batch'.frames = batch.frames) :
    Coherent mapper extension { b with batch := some batch' } := by
  refine ⟨h.calm, h.converted, ?_⟩
  intro _ heq
  cases heq
  obtain ⟨es, hes, hholds⟩ := h.placed batch hbatch
  exact ⟨es, hes, hholds.of_frames hframes⟩

/-- **A phase keeps the invariant**, whether it succeeds or not. -/
theorem coherent_run {s : Stage} {after : Build} {result : Except BuildError Unit}
    (hrun : b.Runs mapper extension s after result) (h : b.Coherent mapper extension) :
    after.Coherent mapper extension := by
  cases hrun with
  | validate =>
    refine ⟨?_, h.converted, h.placed⟩
    intro x hx
    rcases List.mem_append.mp hx with hx | hx
    · exact h.calm x hx
    · exact Lint.severity_of_standard b.document x hx
  | convert hes =>
    refine ⟨h.calm, ?_, h.placed⟩
    intro _ heq
    cases heq
    exact hes
  | place hes hplace =>
    constructor
    · exact h.calm
    · intro _ heq
      cases heq
    · intro _ heq
      cases heq
      exact ⟨_, h.converted _ hes, Batch.holds_of_placeAll hplace⟩
  | placeFailed =>
    refine ⟨h.calm, ?_, h.placed⟩
    intro _ heq
    cases heq
  | register hbatch => exact h.of_frames hbatch (Batch.frames_registerAll _ _)
  | resolve hbatch => exact h.of_frames hbatch (Batch.frames_resolveAll _ _)
  | convertFailed | placeNothing | registerNothing | resolveNothing => exact h

/-- **Any sequence of phases keeps it.** -/
theorem coherent_after (h : b.Coherent mapper extension) (stages : List Stage) :
    (b.after mapper extension stages).Coherent mapper extension := by
  induction stages using List.reverseRecOn with
  | nil => exact h
  | append_singleton ss s ih => exact after_concat_of_runs fun _ _ hruns => coherent_run hruns ih

/-- So does a run that succeeds. -/
theorem coherent_of_run {d : Document} {c : Config} {root : Path} {last : Build}
    (h : (Pipeline.standard mapper extension).run d c root = .ok last) :
    last.Coherent mapper extension :=
  after_of_run h ▸ coherent_after (coherent_initial d c root) Stage.inOrder

/-! ## 2. Placeholders -/

/-- Entities refer to entities of the same document only, and nothing else that they need is a
placeholder. -/
theorem mem_names_of_needed {d : Document} {c : Config} {es : List Entity}
    (hes : d.entities mapper c.decoration = .ok es) (henum : IsModuleName c.enumModule)
    (hdec : IsModuleName c.decoratorModule) {e : Entity} (he : e ∈ es) {target : String}
    (hneeds : placeholder target ∈ (ClassFile.neededImports c.enumModule e).map (·.2)) :
    target ∈ es.map (·.name) := by
  obtain ⟨-, htargets, rfl⟩ := Document.entities_eq_ok_iff.mp hes
  obtain ⟨m, hm, rfl⟩ := List.mem_map.mp he
  obtain ⟨⟨symbol, origin⟩, hp, horigin⟩ := List.mem_map.mp hneeds
  obtain rfl : origin = placeholder target := horigin
  rw [ClassFile.neededImports_converted] at hp
  rcases List.mem_append.mp hp with hp | hp
  · obtain ⟨t, ht, heq⟩ := List.mem_map.mp hp
    obtain rfl : t = target := placeholder_inj.mp (Prod.mk.inj heq).2
    obtain ⟨-, f, hf, hrel, hb⟩ := Model.mem_targets.mp ht
    obtain ⟨n, hn, rfl⟩ := htargets m hm f hf t hb hrel
    rw [List.map_map]
    exact List.mem_map_of_mem hn
  · have hmodule := m.isModuleName_of_mem_moduleImports henum hdec _ hp
    exact absurd hmodule (not_isModuleName_placeholder target)

theorem Coherent.closed_registerAll (h : b.Coherent mapper extension)
    (henum : IsModuleName b.config.enumModule) (hdec : IsModuleName b.config.decoratorModule)
    {batch : Batch} (hbatch : b.batch = some batch) (hclosed : batch.Closed) :
    (batch.registerAll b.config.enumModule).Closed := by
  obtain ⟨es, hes, hholds⟩ := h.placed batch hbatch
  refine Batch.closed_registerAll hclosed fun f hf target hneeds => ?_
  rw [hholds.names, List.mem_eraseDups]
  exact mem_names_of_needed hes henum hdec (hholds.mem hf) hneeds

/-- **What resolution does to a coherent build**: it succeeds, and no file waits then. -/
theorem Coherent.resolveAll (h : b.Coherent mapper extension) {batch : Batch}
    (hbatch : b.batch = some batch) (hclosed : batch.Closed) (resolver : Path.Resolver) :
    ∃ resolved count, batch.resolveAll resolver = (resolved, .ok count) ∧
      ∀ f ∈ resolved.files, f.imports.unresolved = [] := by
  obtain ⟨es, -, hholds⟩ := h.placed batch hbatch
  refine Batch.resolveAll_of_closed hclosed (fun f hf => ?_) resolver
  exact ⟨_, by rw [ClassFile.path?, hholds.location hf, Option.map_some]⟩

/-- **No phase makes a file wait for a model that is not there.** -/
theorem closed_run {s : Stage} {after : Build} {result : Except BuildError Unit}
    (hrun : b.Runs mapper extension s after result) (h : b.Coherent mapper extension)
    (henum : IsModuleName b.config.enumModule) (hdec : IsModuleName b.config.decoratorModule)
    (hb : b.Closed) : after.Closed := by
  cases hrun with
  | place hes hplace =>
    intro _ heq
    cases heq
    exact Batch.closed_of_placeAll hplace
  | register hbatch =>
    intro _ heq
    cases heq
    exact h.closed_registerAll henum hdec hbatch (hb _ hbatch)
  | @resolve batch hbatch =>
    intro _ heq
    cases heq
    obtain ⟨resolved, count, hresolve, hdone⟩ := h.resolveAll hbatch (hb batch hbatch) ⟨b.root⟩
    rw [hresolve]
    exact Batch.closed_of_unresolved hdone
  | validate | convert | placeFailed => exact hb
  | convertFailed | placeNothing | registerNothing | resolveNothing => exact hb

theorem closed_after (h : b.Coherent mapper extension)
    (henum : IsModuleName b.config.enumModule) (hdec : IsModuleName b.config.decoratorModule)
    (hb : b.Closed) (stages : List Stage) : (b.after mapper extension stages).Closed := by
  induction stages using List.reverseRecOn with
  | nil => exact hb
  | append_singleton ss s ih =>
    have hconfig := (continues_after mapper extension b ss).config
    refine after_concat_of_runs fun _ _ hruns => closed_run hruns (coherent_after h ss) ?_ ?_ ih
    · rw [hconfig]
      exact henum
    · rw [hconfig]
      exact hdec

/-! ## 3. When phases fail -/

theorem not_validate_fails (h : b.Coherent mapper extension) :
    ¬ (Stage.phase mapper extension .validate).Fails b := by
  rw [Stage.phase, Phase.not_fails_iff, Pipeline.run_validate h.calm]

theorem convert_fails_iff (mapper : TypeMapper) (extension : String) (b : Build) :
    (Stage.phase mapper extension .convert).Fails b ↔
      ∃ e, b.document.entities mapper b.config.decoration = .error e := by
  refine fails_iff_of_runs fun after result hruns => ?_
  cases hruns with
  | convert hes => simp [hes]
  | convertFailed hes => simp [hes]

/-- **Placement fails without entities, or if two of them that have different names meet.** -/
theorem place_fails_iff (mapper : TypeMapper) (extension : String) (b : Build) :
    (Stage.phase mapper extension .place).Fails b ↔ b.entities = none ∨
      ∃ es, b.entities = some es ∧ Batch.Meet (Phase.placementOf extension b) es := by
  have hmeet : ∀ es, ((Batch.ofEntities es).placeAll (Phase.placementOf extension b)).2 = .ok () ↔
      ¬ Batch.Meet (Phase.placementOf extension b) es := fun es =>
    Batch.placeAll_ofEntities_eq_ok_iff fun _ _ => Layout.ofLayout_congr
  refine fails_iff_of_runs fun after result hruns => ?_
  cases hruns with
  | placeNothing hnone => simp [hnone]
  | @placeFailed es e hes hplace =>
    have hmet : Batch.Meet (Phase.placementOf extension b) es := by
      by_contra hfree
      rw [(hmeet es).mpr hfree] at hplace
      cases hplace
    simp [hes, hmet]
  | @place es batch hes hplace =>
    have hfree : ¬ Batch.Meet (Phase.placementOf extension b) es := by
      rw [← hmeet es, hplace]
    simp [hes, hfree]

theorem register_fails_iff (mapper : TypeMapper) (extension : String) (b : Build) :
    (Stage.phase mapper extension .register).Fails b ↔ b.batch = none := by
  refine fails_iff_of_runs fun after result hruns => ?_
  cases hruns with
  | register hbatch => simp [hbatch]
  | registerNothing hnone => simp [hnone]

/-- **Resolution fails only without a batch**, if no file waits for a model that is not there. -/
theorem resolve_fails_iff (h : b.Coherent mapper extension) (hb : b.Closed) :
    (Stage.phase mapper extension .resolve).Fails b ↔ b.batch = none := by
  refine fails_iff_of_runs fun after result hruns => ?_
  cases hruns with
  | @resolve batch hbatch =>
    obtain ⟨resolved, count, hresolve, -⟩ := h.resolveAll hbatch (hb batch hbatch) ⟨b.root⟩
    rw [hresolve]
    simp [liftGenerate, Except.mapError, Except.map, hbatch]
  | resolveNothing hnone => simp [hnone]

/-! ## 4. Any sequence of phases -/

/-- **What any sequence of phases leads to**, those that fail included: the batch is always that of
the document, whichever placement has left it, and whether the next phase fails shows in what is
there. -/
theorem state_of_stages (mapper : TypeMapper) (extension : String) (d : Document) (c : Config)
    (root : Path) (henum : IsModuleName c.enumModule) (hdec : IsModuleName c.decoratorModule)
    (stages : List Stage) {b : Build}
    (hb : (initial d c root).after mapper extension stages = b) :
    (b.document = d ∧ b.config = c ∧ b.root = root ∧
      ∀ before behind, stages = before ++ behind →
        ((initial d c root).after mapper extension before).diagnostics <+: b.diagnostics) ∧
    (∀ batch, b.batch = some batch →
      batch.files.map (·.entity.name) = (d.models.map (·.name)).eraseDups ∧
      (∀ f ∈ batch.files, f.location
        = some (Placement.ofLayout c.layout (c.outputPath root) extension f.entity)) ∧
      (batch.files.filterMap (·.path?)).Pairwise fun p q => ¬ p.SamePlace q) ∧
    (b.entities.isSome = true ↔
      ∃ before behind, stages = before ++ .convert :: behind ∧ .place ∉ behind ∧
        ¬ (Phase.convert mapper).Fails ((initial d c root).after mapper extension before)) ∧
    ¬ (Phase.validate).Fails b ∧
    ((Phase.convert mapper).Fails b ↔ ∃ e, d.entities mapper c.decoration = .error e) ∧
    ((Phase.place extension).Fails b ↔ b.entities = none ∨ ∃ es, b.entities = some es ∧
      Batch.Meet (.ofLayout c.layout (c.outputPath root) extension) es) ∧
    (Phase.register.Fails b ↔ b.batch = none) ∧
    (Phase.resolve.Fails b ↔ b.batch = none) := by
  have hcontinues := continues_after mapper extension (initial d c root) stages
  have hcoherent : b.Coherent mapper extension :=
    hb ▸ coherent_after (coherent_initial d c root) stages
  have hclosed : b.Closed :=
    hb ▸ closed_after (coherent_initial d c root) henum hdec nofun stages
  have hentities := isSome_entities_after mapper extension (b := initial d c root) rfl stages
  have hgrow : ∀ before behind, stages = before ++ behind →
      ((initial d c root).after mapper extension before).diagnostics <+: b.diagnostics := by
    rintro before behind rfl
    rw [after_append] at hb
    exact hb ▸ (continues_after mapper extension _ behind).diagnostics
  rw [hb] at hcontinues hentities
  obtain ⟨rfl, rfl, rfl, -⟩ := hcontinues
  refine ⟨⟨rfl, rfl, rfl, hgrow⟩, ?_, hentities, not_validate_fails hcoherent,
    convert_fails_iff mapper extension b, place_fails_iff mapper extension b,
    register_fails_iff mapper extension b, resolve_fails_iff hcoherent hclosed⟩
  intro batch hbatch
  obtain ⟨es, hes, hholds⟩ := hcoherent.placed batch hbatch
  obtain ⟨-, -, rfl⟩ := Document.entities_eq_ok_iff.mp hes
  refine ⟨?_, fun f hf => hholds.location hf, hholds.paths_apart⟩
  rw [hholds.names, List.map_map]
  rfl

/-- Resolution before there is anything to resolve, placement without entities, and registration of
what has been resolved. -/
def detour : List Stage :=
  [.resolve, .convert, .place, .place, .register, .resolve, .convert, .register]

theorem state_of_stages_detour :
    IsModuleName Document.blogConfig.enumModule ∧ IsModuleName Document.blogConfig.decoratorModule ∧
      ∃ b batch, (initial .blog Document.blogConfig ⟨"project"⟩).after .typeScript "ts" detour = b ∧
        b.batch = some batch ∧ batch.files.map (·.entity.name) = ["User", "Post"] ∧
        (batch.files.filterMap (·.path?)).Pairwise (fun p q => ¬ p.SamePlace q) ∧
        ¬ Phase.resolve.Fails b := by
  have henum : IsModuleName Document.blogConfig.enumModule := by decide
  have hdec : IsModuleName Document.blogConfig.decoratorModule := by decide
  have hsome : ((initial .blog Document.blogConfig ⟨"project"⟩).after .typeScript "ts"
      detour).batch.isSome = true := by decide +kernel
  obtain ⟨batch, hbatch⟩ := Option.isSome_iff_exists.mp hsome
  obtain ⟨-, hfiles, -, -, -, -, -, hresolve⟩ :=
    state_of_stages .typeScript "ts" .blog Document.blogConfig ⟨"project"⟩ henum hdec detour rfl
  obtain ⟨hnames, -, hapart⟩ := hfiles batch hbatch
  refine ⟨henum, hdec, _, batch, rfl, hbatch, hnames, hapart, fun hfails => ?_⟩
  rw [hresolve.mp hfails] at hbatch
  cases hbatch

end Build

end SchemaClass
