import SchemaClass.FileTree
import SchemaClass.Proofs.Outcome
import SchemaClass.Proofs.Path.Reading
/-!
# Writing into a tree of files

A path leads to one place, whatever the tree holds: where there are no links, a path that can be
followed at all leads where it says on paper.  Making directories and writing files changes a tree
at these places only.  Directories stay directories, so a path that could be followed can still be
followed, and what has been written can be read until its own place is written again.

* `node?_put_self`, `node?_put_of_ne`: what is at a place after a change;
* `Path.destination`: where a path leads on paper; `eq_destination_of_walk`: so does following it;
* `Spares`: the directories of a tree stay, and its texts but at some places;
* `read_of_spares`: what can be read at other places is read as before;
* `Sparing`: programs that spare a tree; `Sparing.bind`: one after another;
* `sparing_makeDirectories`, `sparing_writeFile`: what the operations spare;
* `read_writeFile`: what has been written is read back.
-/

namespace SchemaClass

open Outcome

namespace FileTree

/-! ## 1. One change -/

section Change

variable {t : FileTree} {place other : Place} {node : Node}

/-- Replacing what is stored under one key changes no other. -/
theorem lookup_replaced_of_ne (h : other ≠ place) (nodes : List (Place × Node)) :
    (nodes.map fun n => if n.1 == place then (place, node) else n).lookup other
      = nodes.lookup other := by
  induction nodes with
  | nil => rfl
  | cons n nodes ih =>
    obtain ⟨key, old⟩ := n
    rw [List.map_cons]
    by_cases hkey : key = place
    · rw [if_pos (beq_iff_eq.mpr hkey), List.lookup_cons, List.lookup_cons, ih, hkey,
        beq_false_of_ne h]
    · rw [if_neg (by simpa using hkey), List.lookup_cons, List.lookup_cons, ih]

theorem lookup_replaced_self {nodes : List (Place × Node)}
    (h : nodes.any (·.1 == place) = true) :
    (nodes.map fun n => if n.1 == place then (place, node) else n).lookup place = some node := by
  induction nodes with
  | nil => cases h
  | cons n nodes ih =>
    obtain ⟨key, old⟩ := n
    rw [List.map_cons]
    by_cases hkey : key = place
    · rw [if_pos (beq_iff_eq.mpr hkey), List.lookup_cons, beq_self_eq_true]
    · have hrest : nodes.any (·.1 == place) = true := by simpa [hkey] using h
      rw [if_neg (by simpa using hkey), List.lookup_cons, beq_false_of_ne (Ne.symm hkey)]
      exact ih hrest

/-- **What has been put at a place is there**, if it is not the root. -/
theorem node?_put_self (t : FileTree) (node : Node) (hplace : place ≠ []) :
    (t.put place node).node? place = some node := by
  have hroot : ¬ place.isEmpty = true := by simpa using hplace
  rw [node?, if_neg hroot, put]
  split
  · next hany => exact lookup_replaced_self hany
  · next hany =>
    have hnone : t.nodes.lookup place = none := by
      rw [List.lookup_eq_none_iff]
      intro n hn
      rw [bne_iff_ne]
      rintro rfl
      exact hany (List.any_eq_true.mpr ⟨n, hn, beq_self_eq_true _⟩)
    dsimp only
    rw [List.lookup_append, hnone, List.lookup_cons, beq_self_eq_true, Option.none_or]

theorem node?_put_of_ne (t : FileTree) (node : Node) (h : other ≠ place) :
    (t.put place node).node? other = t.node? other := by
  rw [node?, node?]
  split
  · rfl
  · rw [put]
    split
    · exact lookup_replaced_of_ne h t.nodes
    · dsimp only
      rw [List.lookup_append, List.lookup_cons, beq_false_of_ne h, List.lookup_nil, Option.or_none]

@[simp] theorem here_put (t : FileTree) (place : Place) (node : Node) :
    (t.put place node).here = t.here := by
  rw [put]
  split <;> rfl

end Change

end FileTree

/-! ## 2. Where a path leads -/

/-- Where one step leads on paper. -/
def Place.move : Place → Path.Part → Place
  | _, .root => []
  | place, .here => place
  | place, .up => place.dropLast
  | place, .name s => place ++ [s]

/-- Where a path leads on paper from a working directory. -/
def Path.destination (here : Place) (p : Path) : Place := p.parts.foldl Place.move here

theorem Place.foldl_move_names (place : Place) (names : List (List PathChar)) :
    (names.map Path.Part.name).foldl Place.move place = place ++ names := by
  induction names generalizing place with
  | nil => exact (List.append_nil place).symm
  | cons s names ih =>
    rw [List.map_cons, List.foldl_cons, ih, Place.move, List.append_assoc, List.singleton_append]

namespace FileTree

variable {t t' : FileTree} {p : Path} {place place' : Place} {segment : List PathChar}

/-- A segment is no step, a step up, or a step to a name. -/
theorem ofSegment?_cases (segment : List PathChar) : Path.Part.ofSegment? segment = none ∨
    Path.Part.ofSegment? segment = some .up ∨
      Path.Part.ofSegment? segment = some (.name segment) := by
  rw [Path.Part.ofSegment?]
  split
  · exact Or.inl rfl
  · split
    · exact Or.inr (Or.inl rfl)
    · exact Or.inr (Or.inr rfl)

/-- A segment is followed from a directory only, and leads to its step. -/
theorem eq_move_of_enter (h : t.enter place segment = .ok place') :
    t.node? place = some .directory ∧
      place' = (Path.Part.ofSegment? segment).elim place place.move := by
  rw [enter] at h
  split at h
  · cases h
  · cases h
  · next hdirectory =>
    refine ⟨hdirectory, ?_⟩
    rcases ofSegment?_cases segment with hnone | hup | hname
    · rw [hnone] at h ⊢
      cases h
      rfl
    · rw [hup] at h ⊢
      cases h
      rfl
    · rw [hname] at h ⊢
      dsimp only at h
      split at h
      · cases h
      · cases h
        rfl

/-- What is in a directory does not matter for following a segment from there. -/
theorem enter_congr (h : t'.node? place = t.node? place) :
    t'.enter place segment = t.enter place segment := by
  rw [enter, enter, h]

/-- The paths that are followed at all. -/
theorem checkPath_eq_ok_iff : checkPath p = .ok () ↔
    .char '\x00' ∉ p.chars ∧ p.chars ≠ [] ∧ size p.chars < pathLimit := by
  rw [checkPath]
  by_cases hnull : .char '\x00' ∈ p.chars
  · simp [hnull]
  · by_cases hempty : p.chars = []
    · simp [hempty]
    · simp [hnull, hempty]

theorem walk_eq_ok_iff {segments : List (List PathChar)} : t.walk p segments = .ok place ↔
    checkPath p = .ok () ∧ segments.foldlM t.enter (t.start p) = .ok place := by
  rw [walk, bind_eq_ok]
  exact ⟨fun ⟨_, hcheck, h⟩ => ⟨hcheck, h⟩, fun ⟨hcheck, h⟩ => ⟨(), hcheck, h⟩⟩

theorem eq_foldl_of_foldlM : ∀ {segments : List (List PathChar)} {place place' : Place},
    segments.foldlM t.enter place = .ok place' →
    place' = (Path.steps segments).foldl Place.move place
  | [], _, _, h => by
    cases h
    rfl
  | s :: segments, place, place', h => by
    rw [List.foldlM_cons] at h
    obtain ⟨next, hnext, h⟩ := bind_eq_ok.mp h
    rw [eq_foldl_of_foldlM h, (eq_move_of_enter hnext).2, Path.steps, Path.steps,
      List.filterMap_cons]
    cases Path.Part.ofSegment? s <;> rfl

/-- The place where a path begins is that of its lead. -/
theorem start_eq_foldl (t : FileTree) (p : Path) : t.start p = p.lead.foldl Place.move t.here := by
  rw [start]
  cases hp : p.isAbsolute with
  | true =>
    rw [Path.lead_absolute hp]
    rfl
  | false =>
    rcases Path.lead_relative hp with h | h
    · rw [h]
      rfl
    · rw [h]
      rfl

/-- **A path that can be followed leads where it says.** -/
theorem eq_destination_of_walk (h : t.walk p p.segments = .ok place) :
    place = p.destination t.here := by
  rw [eq_foldl_of_foldlM (walk_eq_ok_iff.mp h).2, start_eq_foldl, Path.destination,
    Path.parts_eq_lead_append, List.foldl_append]

/-! ## 3. Later trees -/

/-- The text of the file at a place. -/
def text? (t : FileTree) (place : Place) : Option String :=
  match t.node? place with
  | some (.file text) => some text
  | _ => none

theorem text?_eq_some {text : String} : t.text? place = some text ↔
    t.node? place = some (.file text) := by
  rw [text?]
  split <;> simp_all

/-- A later tree, where nothing has happened to the texts but at the given places: the directories
are still there, and files have neither changed nor come or gone. -/
structure Spares (places : List Place) (before after : FileTree) : Prop where
  here : after.here = before.here
  directories : ∀ place, before.node? place = some .directory →
    after.node? place = some .directory
  texts : ∀ place ∉ places, after.text? place = before.text? place

theorem Spares.refl (places : List Place) (t : FileTree) : Spares places t t :=
  ⟨rfl, fun _ h => h, fun _ _ => rfl⟩

theorem Spares.trans {places : List Place} {a b c : FileTree} (hab : Spares places a b)
    (hbc : Spares places b c) : Spares places a c :=
  ⟨hbc.here.trans hab.here, fun place h => hbc.directories place (hab.directories place h),
    fun place h => (hbc.texts place h).trans (hab.texts place h)⟩

/-- More places may be left out. -/
theorem Spares.mono {places more : List Place} (h : Spares places t t') (hmore : places ⊆ more) :
    Spares more t t' :=
  ⟨h.here, h.directories, fun place hplace => h.texts place fun hmem => hplace (hmore hmem)⟩

variable {places : List Place}

/-- **A path can still be followed in a later tree**, and leads to the same place. -/
theorem walk_of_spares (h : Spares places t t') {segments : List (List PathChar)}
    (hwalk : t.walk p segments = .ok place) : t'.walk p segments = .ok place := by
  obtain ⟨hcheck, hfold⟩ := walk_eq_ok_iff.mp hwalk
  have hstart : t'.start p = t.start p := by rw [start, start, h.here]
  refine walk_eq_ok_iff.mpr ⟨hcheck, ?_⟩
  rw [hstart]
  -- only directories are passed on the way, and each of them is still there
  generalize t.start p = first at hfold
  clear hwalk hstart
  induction segments generalizing first with
  | nil => exact hfold
  | cons s segments ih =>
    rw [List.foldlM_cons] at hfold ⊢
    obtain ⟨next, hnext, hfold⟩ := bind_eq_ok.mp hfold
    have hdirectory := (eq_move_of_enter hnext).1
    rw [enter_congr ((h.directories first hdirectory).trans hdirectory.symm), hnext]
    exact ih next hfold

theorem read_eq_ok_iff {text : String} : t.read p = .ok text ↔
    ∃ place, t.walk p p.segments = .ok place ∧ t.text? place = some text := by
  rw [read, bind_eq_ok]
  refine exists_congr fun place => and_congr_right fun _ => ?_
  rw [text?]
  cases t.node? place with
  | none => exact ⟨nofun, nofun⟩
  | some node =>
    cases node with
    | directory => exact ⟨nofun, nofun⟩
    | file content => exact ⟨fun h => congrArg some (Except.ok.inj h),
        fun h => congrArg Except.ok (Option.some.inj h)⟩

/-- **What is elsewhere is read as before.** -/
theorem read_of_spares (h : Spares places t t') {text : String} (hread : t.read p = .ok text)
    (hp : p.destination t.here ∉ places) : t'.read p = .ok text := by
  obtain ⟨place, hwalk, htext⟩ := read_eq_ok_iff.mp hread
  obtain rfl := eq_destination_of_walk hwalk
  exact read_eq_ok_iff.mpr ⟨_, walk_of_spares h hwalk, (h.texts _ hp).trans htext⟩

/-! ## 4. Operations -/

/-- Making a directory spares all texts. -/
theorem spares_withDirectory (h : t.withDirectory p = .ok t') : Spares [] t t' := by
  obtain ⟨place, -, h⟩ := bind_eq_ok.mp h
  by_cases hsome : (t.node? place).isSome = true
  · rw [if_pos hsome] at h
    cases h
  · rw [if_neg hsome] at h
    cases h
    have hnone : t.node? place = none := by simpa using hsome
    -- the root is always there, so nothing is made in its place
    have hplace : place ≠ [] := by
      rintro rfl
      cases hnone
    refine ⟨here_put .., fun other hother => ?_, fun other _ => ?_⟩
    · by_cases heq : other = place
      · rw [heq, node?_put_self t _ hplace]
      · rw [node?_put_of_ne t _ heq, hother]
    · by_cases heq : other = place
      · rw [heq, text?, text?, node?_put_self t _ hplace, hnone]
      · rw [text?, text?, node?_put_of_ne t _ heq]

/-- A path that can be that of a file ends with a name. -/
theorem exists_name_of_endsInDirectory (h : endsInDirectory p = false) :
    ∃ before s, p.segments = before ++ [s] ∧ s ≠ [] ∧
      Path.Part.ofSegment? s = some (.name s) := by
  rcases List.eq_nil_or_concat p.segments with hnil | ⟨before, s, hlast⟩
  · exact absurd hnil (Path.segments_ne_nil p)
  · refine ⟨before, s, hlast.trans (List.concat_eq_append ..), ?_⟩
    rw [endsInDirectory, hlast, List.concat_eq_append, List.getLast?_concat] at h
    simp only [Bool.or_eq_false_iff, List.isEmpty_eq_false_iff, beq_eq_false_iff_ne] at h
    obtain ⟨⟨hempty, hdot⟩, hdots⟩ := h
    refine ⟨hempty, ?_⟩
    rw [Path.Part.ofSegment?, if_neg (by simpa [Path.isIdle] using ⟨hempty, hdot⟩), if_neg hdots]

/-- The directory above a name is where the other segments lead. -/
theorem walk_of_walkAbove {before : List (List PathChar)}
    (hsegments : p.segments = before ++ [segment]) (hsegment : segment ≠ [])
    (h : t.walkAbove p = .ok place) : t.walk p before = .ok place := by
  have hend : (dropEmptyEnd p.segments).dropLast = before := by
    rw [dropEmptyEnd, hsegments, List.reverse_concat, List.dropWhile_cons,
      if_neg (by simpa using hsegment), List.reverse_cons, List.reverse_reverse,
      List.dropLast_concat]
  obtain ⟨above, habove, h⟩ := bind_eq_ok.mp h
  obtain rfl : place = above := (eq_move_of_enter h).2
  rwa [hend] at habove

/-- **Writing a file** goes where the path says, in place of a text or nothing. -/
theorem withFile_eq_ok {text : String} (h : t.withFile p text = .ok t') :
    t.walk p p.segments = .ok (p.destination t.here) ∧ p.destination t.here ≠ [] ∧
      t.node? (p.destination t.here) ≠ some .directory ∧
      t' = t.put (p.destination t.here) (.file text) := by
  obtain ⟨above, habove, h⟩ := bind_eq_ok.mp h
  cases hends : endsInDirectory p with
  | true =>
    rw [hends] at h
    cases h
  | false =>
    obtain ⟨before, s, hsegments, hs, hname⟩ := exists_name_of_endsInDirectory hends
    rw [hends, if_neg Bool.false_ne_true] at h
    obtain ⟨place, hplace, h⟩ := bind_eq_ok.mp h
    rw [hsegments, List.getLast?_concat, Option.getD_some] at hplace
    have hwalk : t.walk p p.segments = .ok place := by
      obtain ⟨hcheck, hfold⟩ := walk_eq_ok_iff.mp (walk_of_walkAbove hsegments hs habove)
      refine walk_eq_ok_iff.mpr ⟨hcheck, ?_⟩
      rw [hsegments, List.foldlM_append]
      exact bind_eq_ok.mpr ⟨above, hfold, bind_eq_ok.mpr ⟨place, hplace, rfl⟩⟩
    have hne : place ≠ [] := by
      rw [(eq_move_of_enter hplace).2, hname]
      exact List.append_ne_nil_of_right_ne_nil _ (List.cons_ne_nil _ _)
    rw [← eq_destination_of_walk hwalk]
    by_cases hdirectory : t.node? place = some .directory
    · rw [hdirectory] at h
      cases h
    · rw [if_neg (by simpa using hdirectory)] at h
      exact ⟨hwalk, hne, hdirectory, (Except.ok.inj h).symm⟩

/-- Writing a file spares all other texts. -/
theorem spares_withFile {text : String} (h : t.withFile p text = .ok t') :
    Spares [p.destination t.here] t t' := by
  obtain ⟨-, hne, hfree, rfl⟩ := withFile_eq_ok h
  refine ⟨here_put .., fun other hother => ?_, fun other hother => ?_⟩
  · have hother' : other ≠ p.destination t.here := by
      rintro rfl
      exact hfree hother
    rw [node?_put_of_ne t _ hother', hother]
  · rw [text?, text?, node?_put_of_ne t _ (mt List.mem_singleton.mpr hother)]

/-- **What has been written is read back.** -/
theorem read_withFile {text : String} (h : t.withFile p text = .ok t') : t'.read p = .ok text := by
  have hspares := spares_withFile h
  obtain ⟨hwalk, hne, -, rfl⟩ := withFile_eq_ok h
  refine read_eq_ok_iff.mpr ⟨_, walk_of_spares hspares hwalk, ?_⟩
  rw [text?_eq_some, node?_put_self t _ hne]

/-! ## 5. Programs -/

/-- Running one program after another. -/
theorem run_bind {α β : Type} {x : StateM FileTree α} {f : α → StateM FileTree β}
    {t mid : FileTree} {a : α} (h : x t = (a, mid)) : (x >>= f) t = f a mid :=
  congrArg (fun r : α × FileTree => f r.1 r.2) h

/-- A program that spares every tree with a working directory. -/
def Sparing {α : Type} (here : Place) (places : List Place) (x : StateM FileTree α) : Prop :=
  ∀ t : FileTree, t.here = here → Spares places t (x t).2

namespace Sparing

variable {α β : Type} {here : Place} {places : List Place} {x : StateM FileTree α}
  {f : α → StateM FileTree β}

theorem pure (a : α) : Sparing here places (pure a : StateM FileTree α) := fun t _ => .refl _ t

/-- **One program after another.** -/
theorem bind (hx : Sparing here places x) (hf : ∀ a, Sparing here places (f a)) :
    Sparing here places (x >>= f) := fun t ht =>
  (hx t ht).trans (hf _ _ ((hx t ht).here.trans ht))

theorem mono {more : List Place} (hx : Sparing here places x) (h : places ⊆ more) :
    Sparing here more x := fun t ht => (hx t ht).mono h

/-- What a run of such a program leaves. -/
theorem of_run {t after : FileTree} {a : α} (hx : Sparing t.here places x)
    (h : x t = (a, after)) : Spares places t after := by
  have hspares := hx t rfl
  rwa [h] at hspares

/-- A change that fails changes nothing. -/
theorem change {g : FileTree → Except IoError FileTree}
    (h : ∀ t t', t.here = here → g t = .ok t' → Spares places t t') :
    Sparing here places (FileTree.change g) := by
  intro t ht
  rw [FileTree.change]
  split
  · next t' hg => exact h t t' ht hg
  · exact .refl _ t

end Sparing

section Programs

variable {here : Place}

theorem sparing_makeDirectory (p : Path) :
    Sparing here [] (Disk.makeDirectory p : StateM FileTree _) :=
  .change fun _ _ _ h => spares_withDirectory h

theorem sparing_writeText (p : Path) (text : String) :
    Sparing here [p.destination here] (Disk.writeText p text : StateM FileTree _) :=
  .change fun _ _ ht h => ht ▸ spares_withFile h

theorem sparing_ensureDirectory (p : Path) (result : Except IoError Unit) :
    Sparing here [] (Disk.ensureDirectory p result : StateM FileTree _) := by
  cases result with
  | ok u => exact .pure _
  | error e =>
    have hlook : Sparing here [] (Disk.isDirectory p : StateM FileTree _) :=
      fun t _ => .refl _ t
    rw [Disk.ensureDirectory]
    refine .bind hlook fun there => ?_
    split
    · exact .pure _
    · exact .pure _

theorem sparing_makeChain : ∀ (ps : List Path),
    Sparing here [] (Disk.makeChain ps : StateM FileTree _)
  | [] => .pure _
  | p :: above => by
    rw [Disk.makeChain]
    split
    · exact .pure _
    · refine .bind (sparing_makeDirectory p) fun result => ?_
      split
      · refine .bind (sparing_makeChain above) fun result => ?_
        split
        · exact .pure _
        · exact .bind (sparing_makeDirectory p) (sparing_ensureDirectory p)
      · exact sparing_ensureDirectory p result

/-- **Making directories spares all texts**, wherever it ends. -/
theorem sparing_makeDirectories (p : Path) :
    Sparing here [] (Disk.makeDirectories p : StateM FileTree _) := sparing_makeChain _

/-- **Writing a file spares all other texts**, wherever it ends. -/
theorem sparing_writeFile (p : Path) (text : String) :
    Sparing here [p.destination here] (Disk.writeFile p text : StateM FileTree _) := by
  rw [Disk.writeFile]
  split
  · exact sparing_writeText p text
  · next directory _ =>
    refine .bind ((sparing_makeDirectories directory).mono (List.nil_subset _)) fun result => ?_
    split
    · exact .pure _
    · exact sparing_writeText p text

end Programs

theorem read_writeText {p : Path} {text : String} {t after : FileTree}
    (h : (Disk.writeText p text : StateM FileTree _) t = (.ok (), after)) :
    after.read p = .ok text := by
  rw [show (Disk.writeText p text : StateM FileTree _) t = FileTree.change (·.withFile p text) t
    from rfl, FileTree.change] at h
  split at h
  · next hfile =>
    cases h
    exact read_withFile hfile
  · cases h

/-- **A file that has been written is read back**, whichever directories were missing. -/
theorem read_writeFile {p : Path} {text : String} {t after : FileTree}
    (h : (Disk.writeFile p text : StateM FileTree _) t = (.ok (), after)) :
    after.read p = .ok text := by
  rw [Disk.writeFile] at h
  cases hparent : p.parent? with
  | none =>
    rw [hparent] at h
    exact read_writeText h
  | some directory =>
    rw [hparent] at h
    dsimp only at h
    generalize hmade : (Disk.makeDirectories directory : StateM FileTree _) t = made
    obtain ⟨result, mid⟩ := made
    cases result with
    | error e =>
      rw [run_bind hmade] at h
      cases h
    | ok u =>
      rw [run_bind hmade] at h
      exact read_writeText h

end FileTree

end SchemaClass
