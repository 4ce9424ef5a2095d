import SchemaClass.Proofs.Batch
import SchemaClass.Proofs.ClassFile.Resolution
/-!
# Batches whose files have places

Placement settles which entities a batch has and where their files are.  Registration and
resolution change what the files import and nothing else, whether they succeed or not.  A file may
wait for others, under placeholders, and resolution looks for those in the same batch.  It goes
through if all of them are there, whatever has been done to the batch before, and leaves no file
that waits.

* `frames_registerAll`, `frames_resolveAll`: the entities and places of files stay;
* `Batch.Holds`: the entities of a batch and their places, as placement has left them;
* `Batch.Closed`: a file waits only for files of its batch;
* `closed_registerAll`: registration keeps that, if entities refer to entities of the batch only;
* `resolveAll_of_closed`: resolution goes through.
-/

namespace SchemaClass

open OrderedSet Outcome

/-! ## 1. What stays -/

/-- The files of a batch apart from their imports. -/
def Batch.frames (b : Batch) : List (Entity × Option Location) := b.files.map (·.frame)

namespace Batch

/-- The names of the entities are a part of what stays. -/
theorem names_eq_frames (b : Batch) :
    b.files.map (·.entity.name) = b.frames.map (·.1.name) := by
  rw [frames, List.map_map]
  rfl

theorem frames_registerAll (enumModule : String) (b : Batch) :
    (b.registerAll enumModule).frames = b.frames := by
  rw [frames, frames, registerAll, List.map_map]
  rfl

theorem frames_resolveFiles (locations : List (String × Path)) (resolver : Path.Resolver)
    (fs : List ClassFile) :
    (resolveFiles locations resolver fs).1.map (·.frame) = fs.map (·.frame) := by
  induction fs with
  | nil => rfl
  | cons f fs ih =>
    rw [resolveFiles]
    split
    · rfl
    · next resolved count hresolve =>
      dsimp only
      rw [List.map_cons, List.map_cons, ih, ClassFile.frame_resolve hresolve]

/-- **Resolution leaves entities and places alone**, also where it fails. -/
theorem frames_resolveAll (resolver : Path.Resolver) (b : Batch) :
    (b.resolveAll resolver).1.frames = b.frames := by
  rw [resolveAll]
  split
  · rfl
  · exact frames_resolveFiles ..

end Batch

/-! ## 2. Entities in their places -/

namespace Batch

/-- Entities are in the files of a batch, the last one of each name, and each file is where the
placement puts its entity and no other file is.  Imports do not matter. -/
structure Holds (placement : Placement) (es : List Entity) (b : Batch) : Prop where
  frames : b.frames
    = (ofEntities es).files.map fun f => (f.entity, some (placement f.entity))
  apart : (ofEntities es).files.Pairwise fun f g =>
    ¬ (placement f.entity).path.SamePlace (placement g.entity).path

variable {placement : Placement} {es : List Entity} {b : Batch}

/-- What placement leaves behind, if it succeeds. -/
theorem holds_of_placeAll (h : (ofEntities es).placeAll placement = (b, .ok ())) :
    b.Holds placement es := by
  obtain ⟨hfiles, hpair⟩ := files_of_placeAll h
  constructor
  · rw [frames, hfiles, List.map_map]
    refine List.map_congr_left fun f hf => ?_
    simp only [Function.comp_apply, ClassFile.frame, ClassFile.place, locate_of_mem_ofEntities hf]
  · refine hpair.imp_of_mem fun hf hg hfg hsame => hfg ?_
    rw [locate_of_mem_ofEntities hf, locate_of_mem_ofEntities hg]
    exact samePlace_symm hsame

namespace Holds

/-- **There is a file for each name**, in the order in which the names first occur. -/
theorem names (h : b.Holds placement es) :
    b.files.map (·.entity.name) = (es.map (·.name)).eraseDups := by
  rw [names_eq_frames, h.frames, List.map_map, ← distinct_eq_eraseDups, ← names_ofEntities]
  rfl

theorem exists_file (h : b.Holds placement es) {f : ClassFile} (hf : f ∈ b.files) :
    f.location = some (placement f.entity) ∧
      ∃ g ∈ (ofEntities es).files, g.entity = f.entity := by
  have hframe : f.frame ∈ b.frames := List.mem_map_of_mem hf
  rw [h.frames] at hframe
  obtain ⟨g, hg, heq⟩ := List.mem_map.mp hframe
  obtain ⟨hentity, hlocation⟩ := Prod.mk.inj heq
  refine ⟨?_, g, hg, hentity⟩
  rw [← hentity]
  exact hlocation.symm

/-- **Every file is where its entity belongs.** -/
theorem location (h : b.Holds placement es) {f : ClassFile} (hf : f ∈ b.files) :
    f.location = some (placement f.entity) := (h.exists_file hf).1

/-- **In a file is the last entity of its name.** -/
theorem last (h : b.Holds placement es) {f : ClassFile} (hf : f ∈ b.files) :
    es.findRev? (·.name == f.entity.name) = some f.entity := by
  obtain ⟨-, g, hg, hentity⟩ := h.exists_file hf
  rw [← hentity]
  exact (eq_last_of_mem_ofEntities hg).2

theorem mem (h : b.Holds placement es) {f : ClassFile} (hf : f ∈ b.files) : f.entity ∈ es := by
  obtain ⟨-, g, hg, hentity⟩ := h.exists_file hf
  exact hentity ▸ mem_of_mem_ofEntities hg

/-- **No two files are at one place.** -/
theorem paths_apart (h : b.Holds placement es) :
    (b.files.filterMap (·.path?)).Pairwise fun p q => ¬ p.SamePlace q := by
  have hpaths : b.files.filterMap (·.path?)
      = (ofEntities es).files.map fun f => (placement f.entity).path := by
    have hframes : b.files.filterMap (·.path?) = b.frames.filterMap fun p => p.2.map (·.path) := by
      rw [Batch.frames, List.filterMap_map]
      rfl
    rw [hframes, h.frames, List.filterMap_map, ← List.filterMap_eq_map]
    rfl
  rw [hpaths, List.pairwise_map]
  exact h.apart

/-- Entities of different names have a file each. -/
theorem entities_of_nodup (h : b.Holds placement es) (hnd : (es.map (·.name)).Nodup) :
    b.files.map (·.entity) = es := by
  have hentities : b.files.map (·.entity) = b.frames.map (·.1) := by
    rw [Batch.frames, List.map_map]
    rfl
  rw [hentities, h.frames, ofEntities_of_nodup hnd, List.map_map, List.map_map]
  exact List.map_id es

theorem of_frames {b' : Batch} (h : b.Holds placement es) (hframes : b'.frames = b.frames) :
    b'.Holds placement es := ⟨hframes.trans h.frames, h.apart⟩

end Holds

end Batch

/-! ## 3. All files -/

namespace Batch

/-- Files wait for files of their batch only. -/
def Closed (b : Batch) : Prop :=
  ∀ f ∈ b.files, ∀ target, placeholder target ∈ f.imports.origins →
    target ∈ b.files.map (·.entity.name)

theorem closed_of_unresolved {b : Batch} (h : ∀ f ∈ b.files, f.imports.unresolved = []) :
    b.Closed := by
  intro f hf target hmem
  exact absurd hmem (ImportList.unresolved_eq_nil_iff.mp (h f hf) target)

/-- Files that have just been placed import nothing. -/
theorem closed_of_placeAll {placement : Placement} {es : List Entity} {b : Batch}
    (h : (ofEntities es).placeAll placement = (b, .ok ())) : b.Closed := by
  refine closed_of_unresolved fun f hf => ?_
  rw [(files_of_placeAll h).1] at hf
  obtain ⟨g, hg, rfl⟩ := List.mem_map.mp hf
  rw [(eq_last_of_mem_ofEntities hg).1]
  rfl

/-- **Registration keeps a batch closed**, if its entities refer to its entities only. -/
theorem closed_registerAll {enumModule : String} {b : Batch} (h : b.Closed)
    (hneeds : ∀ f ∈ b.files, ∀ target,
      placeholder target ∈ (ClassFile.neededImports enumModule f.entity).map (·.2) →
        target ∈ b.files.map (·.entity.name)) :
    (b.registerAll enumModule).Closed := by
  intro f hf target hmem
  rw [names_eq_frames, frames_registerAll, ← names_eq_frames]
  obtain ⟨g, hg, rfl⟩ := List.mem_map.mp hf
  rcases ImportList.mem_origins_registerAll.mp hmem with hold | hnew
  · exact h g hg target hold
  · exact hneeds g hg target hnew

/-- The places of a batch, all of whose files have one. -/
theorem locations_of_placed {b : Batch} (hplaced : ∀ f ∈ b.files, ∃ path, f.path? = some path) :
    b.locations = .ok (b.files.map fun f => (f.entity.name, f.path?.getD ⟨[]⟩)) := by
  refine mapM_eq_ok_map fun f hf => ?_
  obtain ⟨path, hpath⟩ := hplaced f hf
  rw [locationOf, hpath]
  rfl

/-- Each name of a batch leads to a path. -/
theorem exists_lookup (pathOf : ClassFile → Path) {fs : List ClassFile} {name : String}
    (h : name ∈ fs.map (·.entity.name)) :
    ∃ path, (fs.map fun f => (f.entity.name, pathOf f)).lookup name = some path := by
  obtain ⟨f, hf, rfl⟩ := List.mem_map.mp h
  rw [← Option.isSome_iff_exists, List.lookup_isSome_iff]
  exact ⟨_, List.mem_map_of_mem hf, beq_self_eq_true _⟩

/-- **A closed batch is resolved**, if all its files have places, and nothing in it waits then. -/
theorem resolveAll_of_closed {b : Batch} (h : b.Closed)
    (hplaced : ∀ f ∈ b.files, ∃ path, f.path? = some path) (resolver : Path.Resolver) :
    ∃ resolved count, b.resolveAll resolver = (resolved, .ok count) ∧
      ∀ f ∈ resolved.files, f.imports.unresolved = [] := by
  have hlocations := locations_of_placed hplaced
  have hlookup : ∀ name ∈ b.files.map (·.entity.name), _ := fun _ =>
    exists_lookup fun f => f.path?.getD ⟨[]⟩
  generalize b.files.map (fun f => (f.entity.name, f.path?.getD ⟨[]⟩)) = locations
    at hlocations hlookup
  have hresolve : ∀ f ∈ b.files, (id f).resolve locations resolver
      = .ok (f.resolved locations resolver, f.imports.unresolved.length) := by
    intro f hf
    obtain ⟨source, hsource⟩ := hplaced f hf
    exact ClassFile.resolve_eq_ok hsource fun target hmem => hlookup target (h f hf target hmem)
  have hfiles := resolveFiles_eq_ok hresolve
  rw [List.map_id] at hfiles
  have hall : b.resolveAll resolver = (⟨b.files.map (·.resolved locations resolver)⟩,
      .ok (b.files.foldr (fun f total => f.imports.unresolved.length + total) 0)) := by
    rw [resolveAll, hlocations]
    dsimp only
    rw [hfiles]
  refine ⟨_, _, hall, ?_⟩
  intro f hf
  obtain ⟨g, -, rfl⟩ := List.mem_map.mp hf
  exact g.unresolved_resolved locations resolver

end Batch

end SchemaClass
