import SchemaClass.Command.Generate
import SchemaClass.Proofs.Batch.Readiness
import SchemaClass.Proofs.Build.Locality
import SchemaClass.Proofs.Build.Models
import SchemaClass.Proofs.FileTree
/-!
# What generation leaves on a disk

A run that succeeds ends with resolution, so its files can all be rendered.  Their paths lead to
different places, also where the output directory climbs, and so no file is written over another.
A run that only shows its files leaves the disk alone; one that writes them changes nothing else,
and where it fails, what it has written before is there.

* `exists_outputs_of_run`: a run that succeeds has a batch, and that has its texts;
* `Layout.destination_location`: the place that the path of a file leads to;
* `paths_of_outputs`: the outputs are in the places of the models, in order;
* `destinations_outputs`: their paths lead to different places;
* `sparing_writeOutputs`, `read_writeOutputs`: what writing leaves, and what can be read then;
* `exists_of_writeOutputs_error`: where writing has failed;
* `delivery_of_batch`: all of this of a document that has been accepted.
-/

namespace SchemaClass

open Outcome FileTree

/-! ## 1. Runs that succeed can be rendered -/

theorem liftGenerate_eq_ok {α : Type} {r : Except GenerateError α} {a : α} :
    liftGenerate r = .ok a ↔ r = .ok a := mapError_eq_ok

/-- The last phase of a run that succeeds has succeeded. -/
theorem Pipeline.exists_last_of_runPhases {phase : Phase} : ∀ {phases : List Phase}
    {b last : Build} {lines : List LogLine},
    runPhases (phases ++ [phase]) b = .ok (last, lines) → ∃ mid, phase.run mid = (last, .ok ())
  | [], b, last, lines, h => by
    rw [List.nil_append, runPhases] at h
    cases hrun : phase.run b with
    | mk after result =>
      rw [hrun] at h
      cases result with
      | error e => cases h
      | ok u =>
        cases h
        exact ⟨b, hrun⟩
  | first :: phases, b, last, lines, h => by
    rw [List.cons_append, runPhases] at h
    cases hrun : first.run b with
    | mk after result =>
      rw [hrun] at h
      cases result with
      | error e => cases h
      | ok u =>
        obtain ⟨⟨final, rest⟩, hrest, heq⟩ := bind_eq_ok.mp h
        cases heq
        exact exists_last_of_runPhases hrest

namespace Document

variable {d : Document} {c : Config} {root : Path} {b : Batch}

/-- **A run that succeeds ends with files that are ready**, whatever its document is. -/
theorem exists_ready_of_run {last : Build} (h : Pipeline.typeScript.run d c root = .ok last) :
    ∃ batch, last.batch = some batch ∧ ∀ f ∈ batch.files, f.Ready := by
  obtain ⟨⟨final, lines⟩, hphases, rfl⟩ := map_eq_ok.mp h
  -- resolution is last, and it succeeds only on files that are ready then
  have hphases' : Pipeline.runPhases
      ([.validate, .convert .typeScript, .place "ts", .register] ++ [.resolve]) _
        = .ok (final, lines) := hphases
  obtain ⟨mid, hresolve⟩ := Pipeline.exists_last_of_runPhases hphases'
  obtain ⟨after, result, hrun, hruns⟩ : ∃ after result, Phase.resolve.run mid = (after, result) ∧
      mid.Runs .typeScript "ts" .resolve after result :=
    Build.exists_runs .typeScript "ts" .resolve mid
  have hends := hrun.symm.trans hresolve
  cases hruns with
  | @resolve batch hbatch =>
    obtain ⟨rfl, hok⟩ := Prod.mk.inj hends
    obtain ⟨n, hn, -⟩ := map_eq_ok.mp hok
    exact ⟨_, rfl, (Batch.resolveAll_ok_iff ⟨mid.root⟩ batch).mp ⟨n, liftGenerate_eq_ok.mp hn⟩⟩
  | resolveNothing hnone =>
    cases (Prod.mk.inj hends).2

/-- **Nothing can fail behind a run that succeeds**: the batch is there and has its texts. -/
theorem exists_outputs_of_run {last : Build} (h : Pipeline.typeScript.run d c root = .ok last) :
    ∃ batch os, last.takeBatch.2 = .ok batch ∧ batch.outputs = .ok os := by
  obtain ⟨batch, hbatch, hready⟩ := exists_ready_of_run h
  obtain ⟨os, hos⟩ := (Batch.renderAll_ok_iff batch).mpr hready
  exact ⟨batch, os, by rw [Build.takeBatch, hbatch], liftGenerate_eq_ok.mpr hos⟩

theorem exists_outputs (h : d.batch c root = .ok b) : ∃ os, b.outputs = .ok os := by
  obtain ⟨last, hrun, htake⟩ := bind_eq_ok.mp h
  obtain ⟨batch, os, htake', hos⟩ := exists_outputs_of_run hrun
  obtain rfl : batch = b := Except.ok.inj (htake'.symm.trans htake)
  exact ⟨os, hos⟩

end Document

/-- The outputs of a batch are in the places of its files. -/
theorem Batch.paths_outputs {b : Batch} {os : List OutputFile} (h : b.outputs = .ok os) :
    os.map (fun o => some o.path) = b.files.map (·.path?) := by
  refine map_of_mapM (fun f o hfile => ?_) (liftGenerate_eq_ok.mp h)
  obtain ⟨text, -, hfile⟩ := bind_eq_ok.mp hfile
  cases hpath : f.path? with
  | none =>
    rw [hpath] at hfile
    cases hfile
  | some path =>
    rw [hpath] at hfile
    cases hfile
    rfl

/-! ## 2. Different places -/

namespace Layout

variable {l : Layout} {output : Path} {extension a b : String} {here : Place}
  (ha : IsPlain (Naming.kebab a)) (hb : IsPlain (Naming.kebab b))
  (hext : IsPlain extension) (hne : extension ≠ "")

include ha hext hne

/-- **Where the path of a placed file leads**: behind the output directory, wherever that is. -/
theorem destination_location : (l.location output extension a).path.destination here
    = output.destination here
      ++ (l.folders (Naming.kebab a) ++ [l.fileName (Naming.kebab a) extension]).map
        PathChar.ofText := by
  rw [Path.destination, parts_location ha hext hne, List.append_assoc, List.foldl_append,
    ← Place.foldl_move_names, List.map_append, List.map_append]
  rfl

include hb

/-- Paths that lead to one place are those of one file. -/
theorem samePlace_of_destination (h : (l.location output extension a).path.destination here
    = (l.location output extension b).path.destination here) :
    (l.location output extension a).path.SamePlace (l.location output extension b).path := by
  rw [destination_location ha hext hne, destination_location hb hext hne] at h
  have hnames := congrArg (List.map Path.Part.name) (List.append_cancel_left h)
  rw [List.map_append, List.map_append, List.map_append, List.map_append] at hnames
  rw [Path.SamePlace, parts_location ha hext hne, parts_location hb hext hne, List.append_assoc,
    List.append_assoc]
  exact congrArg (output.parts ++ ·) hnames

end Layout

/-- The place that the path of an output leads to. -/
def OutputFile.destination (here : Place) (o : OutputFile) : Place := o.path.destination here

namespace Document

variable {d : Document} {c : Config} {root : Path} {b : Batch}

/-- **The outputs of a document that has been accepted** are in the places of its models, in
order. -/
theorem paths_of_outputs (hd : d.WellFormed) (h : d.batch c root = .ok b)
    {os : List OutputFile} (hos : b.outputs = .ok os) :
    os.map (·.path) = d.models.map fun m => (c.location root m.name).path := by
  obtain ⟨es, hes, hholds⟩ := holds_of_batch h
  obtain ⟨-, -, rfl⟩ := entities_eq_ok_iff.mp hes
  have hnames : ((d.models.map (·.converted .typeScript c.decoration)).map (·.name)).Nodup := by
    rw [List.map_map]
    exact hd.models_nodup
  have hplaces : b.files.map (·.path?)
      = (b.files.map (·.entity)).map fun e => some (c.location root e.name).path := by
    rw [List.map_map]
    refine List.map_congr_left fun f hf => ?_
    rw [ClassFile.path?, hholds.location hf, Layout.ofLayout_eq_location]
    rfl
  have hpaths := Batch.paths_outputs hos
  rw [hplaces, hholds.entities_of_nodup hnames, List.map_map] at hpaths
  have hsome : (os.map (·.path)).map some
      = (d.models.map fun m => (c.location root m.name).path).map some := by
    rw [List.map_map, List.map_map]
    exact hpaths
  exact List.map_injective_iff.mpr (fun _ _ => Option.some.inj) hsome

/-- **They lead to different places.** -/
theorem destinations_outputs (hd : d.WellFormed) (h : d.batch c root = .ok b)
    {os : List OutputFile} (hos : b.outputs = .ok os) (here : Place) :
    os.Pairwise fun o o' => o.destination here ≠ o'.destination here := by
  have hapart : (os.map (·.path)).Pairwise fun p q => p.destination here ≠ q.destination here := by
    have hkebab : d.models.Pairwise fun m n => Naming.kebab m.name ≠ Naming.kebab n.name :=
      List.pairwise_map.mp hd.files_nodup
    rw [paths_of_outputs hd h hos, List.pairwise_map]
    refine hkebab.imp_of_mem fun {m n} hm hn hne heq => hne ?_
    have hm' := isPlain_kebab hd m hm
    have hn' := isPlain_kebab hd n hn
    exact Layout.kebab_of_samePlace hm' hn' (by decide) (by decide)
      (Layout.samePlace_of_destination hm' hn' (by decide) (by decide) heq)
  rwa [List.pairwise_map] at hapart

end Document

/-! ## 3. Writing -/

section Writing

variable {here : Place} {os : List OutputFile} {t after : FileTree}

/-- **Writing changes the texts of its own places only**, wherever it ends. -/
theorem sparing_writeOutputs : ∀ os : List OutputFile,
    Sparing here (os.map (·.destination here)) (writeOutputs os : StateM FileTree _)
  | [] => .pure _
  | o :: os => by
    rw [writeOutputs]
    refine .bind ((sparing_writeFile o.path o.content).mono ?_) fun result => ?_
    · exact List.cons_subset_cons _ (List.nil_subset _)
    · split
      · exact .pure _
      · exact (sparing_writeOutputs os).mono (List.subset_cons_self _ _)

/-- One file, and then the others. -/
theorem writeOutputs_cons {o : OutputFile} {mid : FileTree}
    (h : (Disk.writeFile o.path o.content : StateM FileTree _) t = (.ok (), mid)) :
    (writeOutputs (o :: os) : StateM FileTree _) t
      = (writeOutputs os : StateM FileTree _) mid := by
  rw [writeOutputs, run_bind h]

/-- **What has been written can be read**, if no two files are in one place. -/
theorem read_writeOutputs
    (hapart : os.Pairwise fun o o' => o.destination t.here ≠ o'.destination t.here)
    (h : (writeOutputs os : StateM FileTree _) t = (.ok (), after)) :
    ∀ o ∈ os, after.read o.path = .ok o.content := by
  induction os generalizing t with
  | nil => exact fun o ho => absurd ho List.not_mem_nil
  | cons o os ih =>
    generalize hfile : (Disk.writeFile o.path o.content : StateM FileTree _) t = written
    obtain ⟨result, mid⟩ := written
    cases result with
    | error e =>
      rw [writeOutputs, run_bind hfile] at h
      cases h
    | ok u =>
      rw [writeOutputs_cons hfile] at h
      have hhere : mid.here = t.here := ((sparing_writeFile o.path o.content).of_run hfile).here
      obtain ⟨hfirst, hrest⟩ := List.pairwise_cons.mp hapart
      rw [← hhere] at hfirst hrest
      rw [List.forall_mem_cons]
      refine ⟨?_, ih hrest h⟩
      have hspares := (sparing_writeOutputs os).of_run h
      refine read_of_spares hspares (read_writeFile hfile) fun hmem => ?_
      obtain ⟨o', ho', heq⟩ := List.mem_map.mp hmem
      exact hfirst o' ho' heq.symm

/-- **Where writing has failed**: at a file before which all have been written. -/
theorem exists_of_writeOutputs_error {e : IoError}
    (h : (writeOutputs os : StateM FileTree _) t = (.error e, after)) :
    ∃ done o rest mid, os = done ++ o :: rest ∧
      (writeOutputs done : StateM FileTree _) t = (.ok (), mid) ∧
      (Disk.writeFile o.path o.content : StateM FileTree _) mid = (.error e, after) := by
  induction os generalizing t with
  | nil => cases h
  | cons o os ih =>
    generalize hfile : (Disk.writeFile o.path o.content : StateM FileTree _) t = written
    obtain ⟨result, mid⟩ := written
    cases result with
    | error e' =>
      rw [writeOutputs, run_bind hfile] at h
      cases h
      exact ⟨[], o, os, t, rfl, rfl, hfile⟩
    | ok u =>
      rw [writeOutputs_cons hfile] at h
      obtain ⟨done, o', rest, mid', rfl, hdone, herror⟩ := ih h
      exact ⟨o :: done, o', rest, mid', rfl, (writeOutputs_cons hfile).trans hdone, herror⟩

end Writing

/-! ## 4. Generation -/

/-- Showing the outputs leaves the disk as it is. -/
theorem Batch.generate_preview {b : Batch} {os : List OutputFile} (hos : b.outputs = .ok os)
    (t : FileTree) :
    (b.generate .preview : StateM FileTree _) t = (.ok { previewed := os }, t) := by
  rw [Batch.generate, hos]
  rfl

/-- Generation writes the outputs, and its result is that of writing them. -/
theorem Batch.generate_persist {b : Batch} {os : List OutputFile} (hos : b.outputs = .ok os)
    {t after : FileTree} {written : Except IoError Unit}
    (hwrite : (writeOutputs os : StateM FileTree _) t = (written, after)) :
    (b.generate .persist : StateM FileTree _) t
      = ((written.mapError BuildError.io).map fun _ => { written := os.map (·.path) }, after) := by
  have hdeliver : (deliver .persist os : StateM FileTree _) t
      = (written.map fun _ => { written := os.map (·.path) }, after) := by
    rw [deliver, run_bind hwrite]
    cases written <;> rfl
  rw [Batch.generate, hos]
  dsimp only
  rw [run_bind hdeliver]
  cases written <;> rfl

namespace Document

/-- **Showing and writing the files of a document agree, and writing touches nothing else.**  The
batch has its texts.  A run that shows them leaves the disk as it is.  A run that writes them spares
every other place, wherever it ends; if it succeeds, each text can be read where it belongs, and if
it fails at a file, so can those of the files before it. -/
theorem delivery_of_batch (d : Document) (c : Config) (root : Path) {b : Batch}
    (hd : d.validate = .ok ()) (h : d.batch c root = .ok b) :
    ∃ os, b.outputs = .ok os ∧ ∀ t : FileTree,
      (b.generate .preview : StateM FileTree _) t = (.ok { previewed := os }, t) ∧
      ∀ result after, (b.generate .persist : StateM FileTree _) t = (result, after) →
        Spares (os.map (·.destination t.here)) t after ∧
        ((result = .ok { written := os.map (·.path) } ∧
            ∀ o ∈ os, after.read o.path = .ok o.content) ∨
          ∃ done o rest e mid, os = done ++ o :: rest ∧ result = .error (.io e) ∧
            (writeOutputs done : StateM FileTree _) t = (.ok (), mid) ∧
            (Disk.writeFile o.path o.content : StateM FileTree _) mid = (.error e, after) ∧
            ∀ o' ∈ done, after.read o'.path = .ok o'.content) := by
  obtain ⟨os, hos⟩ := exists_outputs h
  refine ⟨os, hos, fun t => ⟨Batch.generate_preview hos t, ?_⟩⟩
  intro result after hgenerate
  have hapart := destinations_outputs ((validate_decides d).ok_iff.mp hd) h hos t.here
  generalize hwrite : (writeOutputs os : StateM FileTree _) t = written
  obtain ⟨written, last⟩ := written
  obtain ⟨hresult, rfl⟩ := Prod.mk.inj ((Batch.generate_persist hos hwrite).symm.trans hgenerate)
  refine ⟨(sparing_writeOutputs os).of_run hwrite, ?_⟩
  cases written with
  | ok u => exact Or.inl ⟨hresult.symm, read_writeOutputs hapart hwrite⟩
  | error e =>
    right
    obtain ⟨done, o, rest, mid, rfl, hdone, hfile⟩ := exists_of_writeOutputs_error hwrite
    refine ⟨done, o, rest, e, mid, rfl, hresult.symm, hdone, hfile, fun o' ho' => ?_⟩
    -- the file at which writing fails is not in the place of any before it
    obtain ⟨hbefore, -, hcross⟩ := List.pairwise_append.mp hapart
    have hmid : mid.here = t.here := ((sparing_writeOutputs done).of_run hdone).here
    have hlast := (sparing_writeFile o.path o.content).of_run hfile
    refine read_of_spares hlast (read_writeOutputs hbefore hdone o' ho') fun hmem => ?_
    rw [List.mem_singleton, hmid] at hmem
    exact hcross o' ho' o List.mem_cons_self hmem

/-- A disk with notes in the output directory. -/
def notedTree : FileTree := .ofFiles [] [("generated/notes.txt", some "kept")]

theorem delivery_of_batch_blog : blog.validate = .ok () ∧ ∃ b os after,
    blog.batch blogConfig ⟨"project"⟩ = .ok b ∧ b.outputs = .ok os ∧ os.length = 2 ∧
      (b.generate .preview : StateM FileTree _) notedTree
        = (.ok { previewed := os }, notedTree) ∧
      (b.generate .persist : StateM FileTree _) notedTree
        = (.ok { written := os.map (·.path) }, after) ∧
      (∀ o ∈ os, after.read o.path = .ok o.content) ∧
      after.text? ["generated", "notes.txt"] = some "kept" := by
  have hbatch := batch_of_validate (c := blogConfig) ⟨"project"⟩ validate_blog (by decide)
    (by decide)
  have hbuilt := outputs_built (c := blogConfig) blog ⟨"project"⟩ (by decide) (by decide)
  obtain ⟨os, hos, hdelivery⟩ :=
    delivery_of_batch blog blogConfig ⟨"project"⟩ validate_blog hbatch
  obtain rfl := Except.ok.inj (hos.symm.trans hbuilt)
  obtain ⟨hpreview, hpersist⟩ := hdelivery notedTree
  -- nothing is in the way of the two files
  have hsucceeds : ((writeOutputs (blog.models.map (·.output blogConfig ⟨"project"⟩))
      : StateM FileTree _) notedTree).1.isOk = true := by decide +kernel
  generalize hwrite : (writeOutputs (blog.models.map (·.output blogConfig ⟨"project"⟩))
      : StateM FileTree _) notedTree = written at hsucceeds
  obtain ⟨written, after⟩ := written
  cases written with
  | error e => cases hsucceeds
  | ok u =>
    have hgenerate := Batch.generate_persist hbuilt hwrite
    refine ⟨validate_blog, _, _, after, hbatch, hbuilt, rfl, hpreview, hgenerate, ?_⟩
    obtain ⟨hspares, ⟨-, hread⟩ | ⟨_, _, _, _, _, -, herror, -⟩⟩ := hpersist _ after hgenerate
    · refine ⟨hread, ?_⟩
      rw [hspares.texts ["generated", "notes.txt"] (by decide +kernel)]
      decide
    · cases herror

end Document

end SchemaClass
