import SchemaClass.Proofs.Batch.Placed
import SchemaClass.Proofs.ClassFile.Text
/-!
# When a batch can be rendered

A file can be rendered if it has a place and waits for nothing.  Resolution makes files ready one
after the other and stops at the first that it cannot make so, with those before it already
changed.  That file is not ready then, and so the batch that is left behind shows whether
resolution has succeeded.

* `ClassFile.Ready`: what rendering asks of a file;
* `resolveFiles_ok_iff`, `resolveAll_ok_iff`: resolution succeeds just if it leaves ready files;
* `renderAll_ok_iff`: so does rendering;
* `Batch.Keyed`: there is one file for a name and one record for an origin, whatever is called;
* `resolution_gates_rendering`: the two passes on a batch that any calls have led to.
-/

namespace SchemaClass

open OrderedSet Outcome

/-! ## 1. One file -/

namespace ClassFile

variable {f g : ClassFile} {locations : List (String × Path)} {resolver : Path.Resolver}

/-- What a file needs for being rendered. -/
structure Ready (f : ClassFile) : Prop where
  placed : f.location.isSome = true
  resolved : f.imports.unresolved = []

theorem Ready.exists_path (h : f.Ready) : ∃ path, f.path? = some path := by
  obtain ⟨location, hlocation⟩ := Option.isSome_iff_exists.mp h.placed
  exact ⟨location.path, by rw [path?, hlocation]; rfl⟩

theorem renderFile_ok_iff :
    (∃ output, Batch.renderFile .classFile f = .ok output) ↔ f.Ready := by
  constructor
  · rintro ⟨output, h⟩
    obtain ⟨text, htext, -⟩ := bind_eq_ok.mp h
    obtain ⟨hplaced, hresolved⟩ := render_succeeds_iff.mp ⟨text, htext⟩
    exact ⟨hplaced, hresolved⟩
  · intro h
    obtain ⟨text, htext⟩ := render_succeeds_iff.mpr ⟨h.placed, h.resolved⟩
    obtain ⟨path, hpath⟩ := h.exists_path
    exact ⟨⟨path, text⟩, bind_eq_ok.mpr ⟨text, htext, by rw [hpath]; rfl⟩⟩

/-- No template renders a file that is not ready. -/
theorem not_renderFile_of_not_ready (template : Template) (h : ¬ f.Ready) :
    ¬ ∃ output, Batch.renderFile template f = .ok output := by
  rintro ⟨output, hrender⟩
  obtain ⟨text, htext, -⟩ := bind_eq_ok.mp hrender
  rw [render] at htext
  cases hlocation : f.location with
  | none =>
    rw [hlocation] at htext
    cases htext
  | some location =>
    cases hwaits : f.imports.unresolved with
    | nil => exact h ⟨by rw [hlocation]; rfl, hwaits⟩
    | cons r rs =>
      rw [hlocation, hwaits] at htext
      cases htext

theorem ready_of_resolve {count : Nat} (h : f.resolve locations resolver = .ok (g, count)) :
    g.Ready := by
  obtain ⟨location, imports, hplace, -, hfile⟩ := exists_of_resolve h
  refine ⟨?_, ?_⟩
  · rw [hfile, hplace]
    rfl
  · rw [(eq_resolved_of_resolve h).1]
    exact unresolved_resolved locations resolver f

theorem not_ready_of_resolve {e : GenerateError} (h : f.resolve locations resolver = .error e) :
    ¬ f.Ready := by
  rintro ⟨hplaced, hresolved⟩
  obtain ⟨location, hlocation⟩ := Option.isSome_iff_exists.mp hplaced
  rw [resolve_of_resolved hresolved hlocation] at h
  cases h

end ClassFile

/-! ## 2. All files -/

namespace Batch

variable {locations : List (String × Path)} {resolver : Path.Resolver}

/-- **Resolution succeeds just if it leaves ready files behind.**  The file at which it stops is
left as it was, and is not ready. -/
theorem resolveFiles_ok_iff (fs : List ClassFile) :
    (∃ n, (resolveFiles locations resolver fs).2 = .ok n) ↔
      ∀ g ∈ (resolveFiles locations resolver fs).1, g.Ready := by
  induction fs with
  | nil => exact ⟨fun _ _ h => absurd h List.not_mem_nil, fun _ => ⟨0, rfl⟩⟩
  | cons f fs ih =>
    rw [resolveFiles]
    cases hresolve : f.resolve locations resolver with
    | error e =>
      have hfirst := ClassFile.not_ready_of_resolve hresolve
      constructor
      · rintro ⟨n, h⟩
        cases h
      · intro h
        exact absurd (h f List.mem_cons_self) hfirst
    | ok result =>
      obtain ⟨g, count⟩ := result
      have hfirst := ClassFile.ready_of_resolve hresolve
      dsimp only
      rw [List.forall_mem_cons, ← ih]
      constructor
      · rintro ⟨n, h⟩
        obtain ⟨n', h, -⟩ := map_eq_ok.mp h
        exact ⟨hfirst, n', h⟩
      · rintro ⟨-, n, h⟩
        exact ⟨count + n, map_eq_ok.mpr ⟨n, h, rfl⟩⟩

/-- What has been counted, if resolution succeeds: every record that waited. -/
theorem count_of_resolveFiles {fs : List ClassFile} {n : Nat}
    (h : (resolveFiles locations resolver fs).2 = .ok n) :
    n = (fs.flatMap (·.imports.unresolved)).length := by
  induction fs generalizing n with
  | nil =>
    cases h
    rfl
  | cons f fs ih =>
    rw [resolveFiles] at h
    cases hresolve : f.resolve locations resolver with
    | error e =>
      rw [hresolve] at h
      cases h
    | ok result =>
      obtain ⟨g, count⟩ := result
      rw [hresolve] at h
      obtain ⟨n', hrest, rfl⟩ := map_eq_ok.mp h
      rw [List.flatMap_cons, List.length_append, ← ih hrest,
        (ClassFile.eq_resolved_of_resolve hresolve).2]

theorem resolveAll_ok_iff (resolver : Path.Resolver) (b : Batch) :
    (∃ n, (b.resolveAll resolver).2 = .ok n) ↔ ∀ g ∈ (b.resolveAll resolver).1.files, g.Ready := by
  rw [resolveAll]
  cases hlocations : b.locations with
  | error e =>
    constructor
    · rintro ⟨n, h⟩
      cases h
    · intro h
      rw [locations_of_placed fun f hf => (h f hf).exists_path] at hlocations
      cases hlocations
  | ok locations => exact resolveFiles_ok_iff b.files

theorem count_of_resolveAll {b : Batch} {n : Nat} (h : (b.resolveAll resolver).2 = .ok n) :
    n = (b.files.flatMap (·.imports.unresolved)).length := by
  rw [resolveAll] at h
  cases hlocations : b.locations with
  | error e =>
    rw [hlocations] at h
    cases h
  | ok locations =>
    rw [hlocations] at h
    exact count_of_resolveFiles h

theorem resolveFiles_of_ready {fs : List ClassFile} (h : ∀ f ∈ fs, f.Ready) :
    resolveFiles locations resolver fs = (fs, .ok 0) := by
  induction fs with
  | nil => rfl
  | cons f fs ih =>
    rw [List.forall_mem_cons] at h
    obtain ⟨location, hlocation⟩ := Option.isSome_iff_exists.mp h.1.placed
    rw [resolveFiles, ClassFile.resolve_of_resolved h.1.resolved hlocation]
    dsimp only
    rw [ih h.2]
    rfl

/-- **Ready files stay as they are** when they are resolved. -/
theorem resolveAll_of_ready {b : Batch} (h : ∀ f ∈ b.files, f.Ready) (resolver : Path.Resolver) :
    b.resolveAll resolver = (b, .ok 0) := by
  rw [resolveAll, locations_of_placed fun f hf => (h f hf).exists_path]
  dsimp only
  rw [resolveFiles_of_ready h]

theorem renderAll_ok_iff (b : Batch) :
    (∃ outputs, b.renderAll .classFile = .ok outputs) ↔ ∀ f ∈ b.files, f.Ready :=
  mapM_succeeds_iff.trans (forall₂_congr fun _ _ => ClassFile.renderFile_ok_iff)

theorem not_renderAll_of_not_ready (template : Template) {b : Batch} {f : ClassFile}
    (hf : f ∈ b.files) (h : ¬ f.Ready) : ¬ ∃ outputs, b.renderAll template = .ok outputs :=
  fun hrender => ClassFile.not_renderFile_of_not_ready template h (mapM_succeeds_iff.mp hrender f hf)

/-! ## 3. Any sequence of calls -/

/-- What can be called on a batch. -/
inductive Call where
  | place (placement : Placement)
  | register (enumModule : String)
  | resolve (resolver : Path.Resolver)

/-- What a call leaves behind, whether it succeeds or not. -/
def perform (b : Batch) : Call → Batch
  | .place placement => (b.placeAll placement).1
  | .register enumModule => b.registerAll enumModule
  | .resolve resolver => (b.resolveAll resolver).1

/-- What some calls leave behind. -/
def after (b : Batch) (calls : List Call) : Batch := calls.foldl perform b

theorem after_concat (b : Batch) (calls : List Call) (call : Call) :
    b.after (calls ++ [call]) = (b.after calls).perform call := List.foldl_concat ..

/-- One file for a name, and in each file one record for an origin. -/
structure Keyed (b : Batch) : Prop where
  names : (b.files.map (·.entity.name)).Nodup
  origins : ∀ f ∈ b.files, f.imports.origins.Nodup

theorem keyed_ofEntities (es : List Entity) : (ofEntities es).Keyed := by
  constructor
  · rw [names_ofEntities]
    exact nodup_distinct _
  · intro f hf
    rw [(eq_last_of_mem_ofEntities hf).1]
    exact List.nodup_nil

theorem nodup_origins_registerAll {l : ImportList} (h : l.origins.Nodup)
    (pairs : List (String × String)) : (l.registerAll pairs).origins.Nodup := by
  rw [ImportList.origins_registerAll]
  exact nodup_foldl_insertNew h

theorem nodup_origins_resolve {f g : ClassFile} {count : Nat}
    (h : f.resolve locations resolver = .ok (g, count)) (hf : f.imports.origins.Nodup) :
    g.imports.origins.Nodup := by
  rw [(ClassFile.eq_resolved_of_resolve h).1, ClassFile.resolved, ImportList.redirected]
  split
  · exact hf
  · exact nodup_origins_registerAll (l := {}) List.nodup_nil _

/-- Placement leaves entities and imports alone, also where it fails. -/
theorem map_placeFiles {β : Type} (g : Entity → ImportList → β) (placement : Placement)
    (taken : List (Path × String)) (fs : List ClassFile) :
    (placeFiles placement taken fs).1.map (fun f => g f.entity f.imports)
      = fs.map fun f => g f.entity f.imports := by
  induction fs generalizing taken with
  | nil => rfl
  | cons f fs ih =>
    rw [placeFiles]
    dsimp only
    split
    · rfl
    · dsimp only
      rw [List.map_cons, List.map_cons, ih]
      rfl

/-- A file behind resolution has been resolved, or is as it was. -/
theorem mem_resolveFiles {fs : List ClassFile} {g : ClassFile}
    (h : g ∈ (resolveFiles locations resolver fs).1) :
    g ∈ fs ∨ ∃ f ∈ fs, ∃ count, f.resolve locations resolver = .ok (g, count) := by
  induction fs with
  | nil => exact Or.inl h
  | cons f fs ih =>
    rw [resolveFiles] at h
    split at h
    · exact Or.inl h
    · next resolved count hresolve =>
      rcases List.mem_cons.mp h with rfl | h
      · exact Or.inr ⟨f, List.mem_cons_self, count, hresolve⟩
      · rcases ih h with hg | ⟨f', hf', hresolve'⟩
        · exact Or.inl (List.mem_cons_of_mem f hg)
        · exact Or.inr ⟨f', List.mem_cons_of_mem f hf', hresolve'⟩

theorem names_perform (b : Batch) (call : Call) :
    (b.perform call).files.map (·.entity.name) = b.files.map (·.entity.name) := by
  cases call with
  | place placement => exact map_placeFiles (fun e _ => e.name) placement [] b.files
  | register enumModule =>
    rw [perform, names_eq_frames, frames_registerAll, ← names_eq_frames]
  | resolve resolver =>
    rw [perform, names_eq_frames, frames_resolveAll, ← names_eq_frames]

theorem nodup_origins_perform {b : Batch} (h : ∀ f ∈ b.files, f.imports.origins.Nodup)
    (call : Call) : ∀ f ∈ (b.perform call).files, f.imports.origins.Nodup := by
  intro f hf
  cases call with
  | place placement =>
    have himports : f.imports ∈ b.files.map (·.imports) := by
      rw [← map_placeFiles (fun _ l => l) placement []]
      exact List.mem_map_of_mem hf
    obtain ⟨g, hg, heq⟩ := List.mem_map.mp himports
    exact heq ▸ h g hg
  | register enumModule =>
    obtain ⟨g, hg, rfl⟩ := List.mem_map.mp hf
    exact nodup_origins_registerAll (h g hg) _
  | resolve resolver =>
    rw [perform, resolveAll] at hf
    cases hlocations : b.locations with
    | error e =>
      rw [hlocations] at hf
      exact h f hf
    | ok locations =>
      rw [hlocations] at hf
      rcases mem_resolveFiles hf with hf | ⟨g, hg, count, hresolve⟩
      · exact h f hf
      · exact nodup_origins_resolve hresolve (h g hg)

theorem keyed_perform {b : Batch} (h : b.Keyed) (call : Call) : (b.perform call).Keyed := by
  constructor
  · rw [names_perform]
    exact h.names
  · exact nodup_origins_perform h.origins call

theorem keyed_after {b : Batch} (h : b.Keyed) (calls : List Call) : (b.after calls).Keyed := by
  induction calls using List.reverseRecOn with
  | nil => exact h
  | append_singleton calls call ih =>
    rw [after_concat]
    exact keyed_perform ih call

/-- **Resolution and rendering agree**, whatever has been done to a batch before and wherever it has
failed.  Resolution succeeds exactly if the batch that it leaves behind can be rendered; it has
counted all records that waited then, none of them is left, and there is nothing to resolve again.
No template renders what a failed resolution leaves behind. -/
theorem resolution_gates_rendering (es : List Entity) (calls : List Call)
    (resolver : Path.Resolver) :
    let b := (ofEntities es).after calls
    let left := (b.resolveAll resolver).1
    let result := (b.resolveAll resolver).2
    b.Keyed ∧
    ((∃ n, result = .ok n) ↔ ∃ outputs, left.renderAll .classFile = .ok outputs) ∧
    (∀ n, result = .ok n →
      n = (b.files.flatMap (·.imports.unresolved)).length ∧
      (∀ f ∈ left.files, f.imports.unresolved = []) ∧
      ∀ again, left.resolveAll again = (left, .ok 0)) ∧
    (∀ e, result = .error e → ∀ template, ¬ ∃ outputs, left.renderAll template = .ok outputs) := by
  intro b left result
  have hready : (∃ n, result = .ok n) ↔ ∀ f ∈ left.files, f.Ready := resolveAll_ok_iff resolver b
  refine ⟨keyed_after (keyed_ofEntities es) calls, hready.trans (renderAll_ok_iff left).symm, ?_, ?_⟩
  · intro n hn
    have hfiles := hready.mp ⟨n, hn⟩
    exact ⟨count_of_resolveAll hn, fun f hf => (hfiles f hf).resolved,
      resolveAll_of_ready hfiles⟩
  · intro e he template
    have hfailed : ¬ ∀ f ∈ left.files, f.Ready := by
      rw [← hready]
      rintro ⟨n, hn⟩
      cases he.symm.trans hn
    rw [not_forall₂] at hfailed
    obtain ⟨f, hf, hnot⟩ := hfailed
    exact not_renderAll_of_not_ready template hf hnot

end Batch

end SchemaClass
