import Mathlib.Data.List.Nodup
import Mathlib.Data.List.Pairwise
import SchemaClass.Batch
import SchemaClass.Proofs.OrderedSet
import SchemaClass.Proofs.Outcome
/-!
# When a batch goes through

A batch is made, placed, registered, resolved and rendered file by file, and each of these passes
stops at the first file that fails.  Here each is reduced to what has to hold of its files: if that
holds of all of them, the pass succeeds and does to the batch what it does to a file.

* `ofEntities_of_nodup`: a batch of entities of different names has a file for each of them;
* `names_ofEntities`, `eq_last_of_mem_ofEntities`: otherwise there is a file for each name, with the
  last entity of that name;
* `placeFiles_eq_ok_iff`: placing succeeds exactly if no two files meet;
* `placeAll_ofEntities_eq_ok_iff`: the same, said of the entities;
* `locations_eq_ok`, `lookup_locations`: the paths by which the files find one another;
* `resolveFiles_eq_ok`, `renderAll_eq_ok`: resolving and rendering;
* `files_of_resolveFiles`: what has been resolved, if nothing is known but that it went well.
-/

namespace SchemaClass.Batch

open OrderedSet Outcome

/-! ## 1. Making a batch -/

theorem insert_of_notMem {b : Batch} {e : Entity} (h : ∀ f ∈ b.files, f.entity.name ≠ e.name) :
    b.insert e = ⟨b.files ++ [{ entity := e }]⟩ := by
  have hany : ¬ b.files.any (·.entity.name == e.name) = true := by
    rw [List.any_eq_true]
    rintro ⟨f, hf, hname⟩
    exact h f hf (beq_iff_eq.mp hname)
  rw [insert, if_neg hany]

theorem foldl_insert_of_nodup : ∀ {es : List Entity} {b : Batch},
    (b.files.map (·.entity.name) ++ es.map (·.name)).Nodup →
    es.foldl insert b = ⟨b.files ++ es.map fun e => { entity := e }⟩
  | [], b, _ => by rw [List.map_nil, List.append_nil]; rfl
  | e :: es, b, h => by
    have hnew : ∀ f ∈ b.files, f.entity.name ≠ e.name := by
      intro f hf heq
      exact (List.nodup_append.mp h).2.2 _ (List.mem_map_of_mem hf) _ List.mem_cons_self heq
    have hrest : ((b.insert e).files.map (·.entity.name) ++ es.map (·.name)).Nodup := by
      rw [insert_of_notMem hnew, List.map_append, List.append_assoc]
      exact h
    rw [List.foldl_cons, foldl_insert_of_nodup hrest, insert_of_notMem hnew, List.append_assoc]
    rfl

/-- **Entities of different names have a file each**, in their order. -/
theorem ofEntities_of_nodup {es : List Entity} (h : (es.map (·.name)).Nodup) :
    ofEntities es = ⟨es.map fun e => { entity := e }⟩ :=
  foldl_insert_of_nodup (b := {}) h

/-! ### Entities of any names

An entity takes the place of another of its name.  So there is a file for each name, where the name
stands first, and in it is the last entity of that name. -/

theorem ofEntities_concat (es : List Entity) (e : Entity) :
    ofEntities (es ++ [e]) = (ofEntities es).insert e := by
  simp [ofEntities, List.foldl_append]

theorem any_name_iff {b : Batch} {name : String} :
    b.files.any (·.entity.name == name) = true ↔ name ∈ b.files.map (·.entity.name) := by
  simp

theorem names_insert (b : Batch) (e : Entity) :
    (b.insert e).files.map (·.entity.name) = insertNew (b.files.map (·.entity.name)) e.name := by
  by_cases h : e.name ∈ b.files.map (·.entity.name)
  · rw [insert, if_pos (any_name_iff.mpr h), insertNew_of_mem h, List.map_map]
    refine List.map_congr_left fun f _ => ?_
    by_cases hname : f.entity.name = e.name
    · simp [hname]
    · simp [hname]
  · rw [insert, if_neg (mt any_name_iff.mp h), insertNew_of_not_mem h, List.map_append]
    rfl

theorem mem_insert {b : Batch} {e : Entity} {f : ClassFile} (h : f ∈ (b.insert e).files) :
    f = { entity := e } ∨ f ∈ b.files ∧ f.entity.name ≠ e.name := by
  by_cases hany : e.name ∈ b.files.map (·.entity.name)
  · rw [insert, if_pos (any_name_iff.mpr hany)] at h
    obtain ⟨g, hg, rfl⟩ := List.mem_map.mp h
    by_cases hname : g.entity.name = e.name
    · exact Or.inl (by simp [hname])
    · exact Or.inr (by simp [hname, hg])
  · rw [insert, if_neg (mt any_name_iff.mp hany)] at h
    rcases List.mem_append.mp h with h | h
    · exact Or.inr ⟨h, fun hname => hany (List.mem_map.mpr ⟨f, h, hname⟩)⟩
    · exact Or.inl (List.mem_singleton.mp h)

/-- **There is a file for each name**, in the order of their first entities. -/
theorem names_ofEntities (es : List Entity) :
    (ofEntities es).files.map (·.entity.name) = distinct (es.map (·.name)) := by
  induction es using List.reverseRecOn with
  | nil => rfl
  | append_singleton es e ih =>
    rw [ofEntities_concat, names_insert, ih, List.map_append, List.map_singleton,
      distinct_append_singleton]

theorem findRev?_concat {α : Type} (p : α → Bool) (as : List α) (a : α) :
    (as ++ [a]).findRev? p = if p a then some a else as.findRev? p := by
  rw [List.findRev?_eq_find?_reverse, List.findRev?_eq_find?_reverse, List.reverse_concat,
    List.find?_cons]
  cases p a <;> rfl

/-- **In a file is the last entity of its name**, and nothing else. -/
theorem eq_last_of_mem_ofEntities {es : List Entity} {f : ClassFile}
    (h : f ∈ (ofEntities es).files) :
    f = { entity := f.entity } ∧ es.findRev? (·.name == f.entity.name) = some f.entity := by
  induction es using List.reverseRecOn with
  | nil => exact absurd h List.not_mem_nil
  | append_singleton es e ih =>
    rw [ofEntities_concat] at h
    rw [findRev?_concat]
    rcases mem_insert h with rfl | ⟨hf, hname⟩
    · simp
    · rw [beq_false_of_ne hname.symm, if_neg Bool.false_ne_true]
      exact ih hf

theorem mem_of_mem_ofEntities {es : List Entity} {f : ClassFile} (h : f ∈ (ofEntities es).files) :
    f.entity ∈ es := by
  have hlast := (eq_last_of_mem_ofEntities h).2
  rw [List.findRev?_eq_find?_reverse] at hlast
  exact List.mem_reverse.mp (List.mem_of_find?_eq_some hlast)

/-- A file is found for each entity, though another entity of its name may be in it. -/
theorem exists_file_of_mem {es : List Entity} {e : Entity} (h : e ∈ es) :
    ∃ f ∈ (ofEntities es).files, f.entity.name = e.name := by
  have hmem : e.name ∈ (ofEntities es).files.map (·.entity.name) := by
    rw [names_ofEntities, mem_distinct]
    exact List.mem_map_of_mem h
  exact List.mem_map.mp hmem

/-- No file of a new batch has a place yet. -/
theorem locate_of_mem_ofEntities {es : List Entity} {f : ClassFile}
    (h : f ∈ (ofEntities es).files) (placement : Placement) :
    f.locate placement = placement f.entity := by
  rw [(eq_last_of_mem_ofEntities h).1]
  rfl

/-! ## 2. Places -/

/-- **Placing succeeds exactly if no file meets one before it**, be it placed earlier or now. -/
theorem placeFiles_eq_ok_iff (placement : Placement) :
    ∀ (fs : List ClassFile) (taken : List (Path × String)),
      (placeFiles placement taken fs).2 = .ok () ↔
        (∀ f ∈ fs, ∀ t ∈ taken, ¬ (f.locate placement).path.SamePlace t.1) ∧
        fs.Pairwise fun f g => ¬ (g.locate placement).path.SamePlace (f.locate placement).path
  | [], taken => by simp [placeFiles]
  | f :: fs, taken => by
    rw [placeFiles]
    dsimp only
    split
    · next other first hfind =>
      have hmeet : (f.locate placement).path.SamePlace other := by
        simpa using List.find?_some hfind
      have hmem : (other, first) ∈ taken := List.mem_of_find?_eq_some hfind
      refine ⟨nofun, fun h => ?_⟩
      exact absurd hmeet (h.1 f List.mem_cons_self (other, first) hmem)
    · next hfind =>
      have hfree : ∀ t ∈ taken, ¬ (f.locate placement).path.SamePlace t.1 := by
        simpa using hfind
      rw [placeFiles_eq_ok_iff placement fs, List.pairwise_cons]
      simp only [List.forall_mem_cons]
      constructor
      · rintro ⟨htaken, hpair⟩
        exact ⟨⟨hfree, fun g hg => (htaken g hg).2⟩, fun g hg => (htaken g hg).1, hpair⟩
      · rintro ⟨⟨-, htaken⟩, hfirst, hpair⟩
        exact ⟨fun g hg => ⟨hfirst g hg, htaken g hg⟩, hpair⟩

/-- If placing succeeds, every file has been placed. -/
theorem files_of_placeFiles (placement : Placement) :
    ∀ (fs : List ClassFile) (taken : List (Path × String)),
      (placeFiles placement taken fs).2 = .ok () →
      (placeFiles placement taken fs).1 = fs.map (·.place placement)
  | [], _, _ => rfl
  | f :: fs, taken, h => by
    rw [placeFiles] at h ⊢
    dsimp only at h ⊢
    split at h
    · cases h
    · have hfs : (placeFiles placement (((f.locate placement).path, f.entity.name) :: taken) fs).1
          = fs.map (·.place placement) := files_of_placeFiles placement fs _ h
      dsimp only
      rw [hfs, List.map_cons]

/-- Placing a batch whose files do not meet. -/
theorem placeAll_eq_ok {placement : Placement} {b : Batch}
    (h : b.files.Pairwise fun f g =>
      ¬ (g.locate placement).path.SamePlace (f.locate placement).path) :
    b.placeAll placement = (⟨b.files.map (·.place placement)⟩, .ok ()) := by
  have hok : (placeFiles placement [] b.files).2 = .ok () :=
    (placeFiles_eq_ok_iff placement b.files []).mpr ⟨fun _ _ _ ht => absurd ht List.not_mem_nil, h⟩
  rw [placeAll]
  dsimp only
  rw [hok, files_of_placeFiles placement b.files [] hok]

theorem samePlace_symm {p q : Path} (h : p.SamePlace q) : q.SamePlace p := Eq.symm h

/-- What a batch of entities gives when it is placed, if it can be. -/
theorem files_of_placeAll {placement : Placement} {b placed : Batch}
    (h : b.placeAll placement = (placed, .ok ())) :
    placed.files = b.files.map (·.place placement) ∧
      b.files.Pairwise fun f g =>
        ¬ (g.locate placement).path.SamePlace (f.locate placement).path := by
  obtain ⟨hfiles, hok⟩ := Prod.mk.inj h
  have hpair := (placeFiles_eq_ok_iff placement b.files []).mp hok
  refine ⟨?_, hpair.2⟩
  rw [← hfiles]
  exact files_of_placeFiles placement b.files [] hok

/-- Two entities of different names belong in one place. -/
def Meet (placement : Placement) (es : List Entity) : Prop :=
  ∃ e ∈ es, ∃ e' ∈ es, e.name ≠ e'.name ∧ (placement e).path.SamePlace (placement e').path

/-- **When entities can be placed**, if the place of each follows from its name.  Entities of one
name have one file, and so they do not meet. -/
theorem placeAll_ofEntities_eq_ok_iff {placement : Placement}
    (hname : ∀ e e' : Entity, e.name = e'.name → placement e = placement e') {es : List Entity} :
    ((ofEntities es).placeAll placement).2 = .ok () ↔ ¬ Meet placement es := by
  have hnames : ((ofEntities es).files.map (·.entity.name)).Nodup := by
    rw [names_ofEntities]
    exact nodup_distinct _
  have hiff : ((ofEntities es).placeAll placement).2 = .ok () ↔ _ :=
    placeFiles_eq_ok_iff placement (ofEntities es).files []
  rw [hiff]
  constructor
  · rintro ⟨-, hpair⟩ ⟨e, he, e', he', hne, hsame⟩
    -- an entity may have lost its file to another of its name, but the place is the same
    obtain ⟨f, hf, hfe⟩ := exists_file_of_mem he
    obtain ⟨f', hf', hfe'⟩ := exists_file_of_mem he'
    have hff' : f ≠ f' := by
      rintro rfl
      exact hne (hfe.symm.trans hfe')
    have hsymm : Std.Symm fun f g : ClassFile =>
        ¬ (g.locate placement).path.SamePlace (f.locate placement).path :=
      ⟨fun _ _ h h' => h (samePlace_symm h')⟩
    refine hpair.forall hf' hf hff'.symm ?_
    rw [locate_of_mem_ofEntities hf, locate_of_mem_ofEntities hf', hname _ _ hfe, hname _ _ hfe']
    exact hsame
  · intro h
    refine ⟨fun _ _ _ ht => absurd ht List.not_mem_nil, ?_⟩
    have hfiles : (ofEntities es).files.Nodup := List.Nodup.of_map _ hnames
    refine hfiles.pairwise_of_forall_ne fun f hf g hg hne => ?_
    rw [locate_of_mem_ofEntities hf, locate_of_mem_ofEntities hg]
    intro hsame
    refine h ⟨g.entity, mem_of_mem_ofEntities hg, f.entity, mem_of_mem_ofEntities hf, ?_, hsame⟩
    intro heq
    exact hne (List.inj_on_of_nodup_map hnames hf hg heq.symm)

/-- The paths of a batch whose files have been placed. -/
theorem locations_eq_ok {α : Type} {as : List α} {file : α → ClassFile}
    {location : α → Location} (h : ∀ a ∈ as, (file a).location = some (location a)) :
    (⟨as.map file⟩ : Batch).locations
      = .ok (as.map fun a => ((file a).entity.name, (location a).path)) := by
  have hfile : ∀ a ∈ as, locationOf (file a)
      = .ok ((file a).entity.name, (location a).path) := fun a ha => by
    rw [locationOf, ClassFile.path?, h a ha]
    rfl
  rw [locations, List.mapM_map]
  exact mapM_eq_ok_map hfile

/-- Where the path of a file follows from the name of its entity, that name leads to it. -/
theorem lookup_locations (pathOf : String → Path) {name : String} : ∀ {names : List String},
    name ∈ names → (names.map fun n => (n, pathOf n)).lookup name = some (pathOf name)
  | [], h => absurd h List.not_mem_nil
  | n :: names, h => by
    rw [List.map_cons, List.lookup_cons]
    by_cases hn : name = n
    · rw [hn, beq_self_eq_true]
    · rw [beq_false_of_ne hn]
      exact lookup_locations pathOf ((List.mem_cons.mp h).resolve_left hn)

theorem eq_of_lookup_locations (pathOf : String → Path) {name : String} {path : Path}
    {names : List String}
    (h : (names.map fun n => (n, pathOf n)).lookup name = some path) : path = pathOf name := by
  obtain ⟨before, behind, hsplit, -⟩ := List.lookup_eq_some_iff.mp h
  have hmem : (name, path) ∈ names.map fun n => (n, pathOf n) := by
    rw [hsplit]
    exact List.mem_append_right _ List.mem_cons_self
  obtain ⟨n, -, heq⟩ := List.mem_map.mp hmem
  cases heq
  rfl

/-! ## 3. Imports -/

/-- Resolving succeeds if it does for every file; the counts add up. -/
theorem resolveFiles_eq_ok {α : Type} {file resolved : α → ClassFile} {count : α → Nat}
    {locations : List (String × Path)} {resolver : Path.Resolver} : ∀ {as : List α},
    (∀ a ∈ as, (file a).resolve locations resolver = .ok (resolved a, count a)) →
    resolveFiles locations resolver (as.map file)
      = (as.map resolved, .ok (as.foldr (fun a total => count a + total) 0))
  | [], _ => rfl
  | a :: as, h => by
    have ha : (file a).resolve locations resolver = .ok (resolved a, count a) :=
      h a List.mem_cons_self
    have has : resolveFiles locations resolver (as.map file)
        = (as.map resolved, .ok (as.foldr (fun a total => count a + total) 0)) :=
      resolveFiles_eq_ok fun c hc => h c (List.mem_cons_of_mem _ hc)
    rw [List.map_cons, resolveFiles, ha]
    dsimp only
    rw [has]
    rfl

/-- If resolving succeeds, it has succeeded for every file. -/
theorem files_of_resolveFiles {α : Type} {file resolved : α → ClassFile}
    {locations : List (String × Path)} {resolver : Path.Resolver} : ∀ {as : List α} {total : Nat},
    (∀ a ∈ as, ∀ f count, (file a).resolve locations resolver = .ok (f, count) →
      f = resolved a) →
    (resolveFiles locations resolver (as.map file)).2 = .ok total →
    (resolveFiles locations resolver (as.map file)).1 = as.map resolved
  | [], _, _, _ => rfl
  | a :: as, total, h, hok => by
    rw [List.map_cons, resolveFiles] at hok ⊢
    cases ha : (file a).resolve locations resolver with
    | error e =>
      rw [ha] at hok
      cases hok
    | ok result =>
      obtain ⟨f, count⟩ := result
      rw [ha] at hok
      dsimp only at hok ⊢
      cases hrest : (resolveFiles locations resolver (as.map file)).2 with
      | error e =>
        rw [hrest] at hok
        cases hok
      | ok rest =>
        have has : (resolveFiles locations resolver (as.map file)).1 = as.map resolved :=
          files_of_resolveFiles (fun b hb => h b (List.mem_cons_of_mem _ hb)) hrest
        rw [has, h a List.mem_cons_self f count ha, List.map_cons]

/-! ## 4. Texts -/

/-- Rendering succeeds if it does for every file. -/
theorem renderAll_eq_ok {α : Type} {as : List α} {file : α → ClassFile}
    {location : α → Location} {text : α → String} {template : Template}
    (hplace : ∀ a ∈ as, (file a).location = some (location a))
    (hrender : ∀ a ∈ as, (file a).render template = .ok (text a)) :
    (⟨as.map file⟩ : Batch).renderAll template
      = .ok (as.map fun a => ⟨(location a).path, text a⟩) := by
  have hfile : ∀ a ∈ as, renderFile template (file a) = .ok ⟨(location a).path, text a⟩ :=
    fun a ha => by
      rw [renderFile, hrender a ha, ClassFile.path?, hplace a ha]
      rfl
  rw [renderAll, List.mapM_map]
  exact mapM_eq_ok_map hfile

end SchemaClass.Batch
