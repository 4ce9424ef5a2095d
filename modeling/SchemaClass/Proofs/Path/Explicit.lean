import SchemaClass.Proofs.Path.Following
/-!
# Specifiers that say where they start

A module loader takes a specifier for the name of a package, unless it is `..` or begins with `./`
or `../`.  Whether `./` is written in front of a way is decided on the text of the way, though, and
a way down can begin like a climb: with the name of a directory or a file that has two dots in
front.  Everywhere else a specifier is explicit, with `./` in front of the ways that do not climb and
of no others.

* `way_of_inside`, `exists_way_of_not_inside`: inside the directory of the file, the way goes down
  only; outside, it begins with a climb;
* `exists_cons_of_looksUp`: what comes first on a way down that looks like a climb;
* `isRelative_intercalate_iff`: such a way is the name of a package, unless it is nothing but dots;
* `explicit_iff`: when a specifier is explicit;
* `forms_of_specifier`: what a specifier looks like.
-/

namespace SchemaClass.Path

/-! ## 1. Inside and outside -/

/-- The target is in the directory of the file `source` or below it, or is that directory, as far as
the parts of their normal forms say. -/
def Inside (source target : Path) : Prop := source.directory.parts <+: target.normalize.parts

instance (source target : Path) : Decidable (Inside source target) :=
  inferInstanceAs (Decidable (source.directory.parts <+: target.normalize.parts))

/-- What is written of a target behind the directory of the file `source`. -/
def down (source target : Path) : List String :=
  mapLast dropSourceExtension
    ((target.normalize.parts.drop source.directory.parts.length).map Part.text)

/-- **Inside the directory of the file, the way goes down only.** -/
theorem way_of_inside {source target : Path} (h : Inside source target) :
    way source target = down source target := by
  obtain ⟨below, hbelow⟩ := h
  have hcommon : dropCommon source.directory.parts target.normalize.parts = ([], below) := by
    have hdrop := dropCommon_append [] below source.directory.parts
    rwa [List.append_nil, hbelow] at hdrop
  rw [way, hcommon, down, ← hbelow, List.drop_left]
  rfl

/-- **Outside, it begins with a climb.** -/
theorem exists_way_of_not_inside {source target : Path} (h : ¬ Inside source target) :
    ∃ rest, way source target = ".." :: rest := by
  obtain ⟨common, hsource, htarget, -⟩ :=
    dropCommon_spec source.directory.parts target.normalize.parts
  rw [way]
  cases hcommon : dropCommon source.directory.parts target.normalize.parts with
  | mk above below =>
    rw [hcommon] at hsource htarget
    cases above with
    | nil =>
      refine absurd ?_ h
      rw [List.append_nil] at hsource
      rw [Inside, htarget, hsource]
      exact List.prefix_append common below
    | cons part above =>
      have hclimb : dropSourceExtension ".." = ".." := by decide
      dsimp only
      rw [List.map_cons, List.cons_append]
      cases above.map (fun _ => "..") ++ below.map Part.text with
      | nil => exact ⟨[], by rw [mapLast, hclimb]⟩
      | cons s names => exact ⟨mapLast dropSourceExtension (s :: names), rfl⟩

/-! ## 2. Ways that look like a climb -/

/-- A specifier that is read as a path from the file it stands in, and not as the name of a
package. -/
def IsRelative (specifier : String) : Prop :=
  specifier = ".." ∨ "./".toList <+: specifier.toList ∨ "../".toList <+: specifier.toList

instance (specifier : String) : Decidable (IsRelative specifier) :=
  inferInstanceAs (Decidable (_ ∨ _ ∨ _))

/-- The first name of a way has two dots in front. -/
inductive LooksUp : List String → Prop where
  | first {s : String} {names : List String} (h : ['.', '.'] <+: s.toList) : LooksUp (s :: names)

theorem looksUp_cons_iff {s : String} {names : List String} :
    LooksUp (s :: names) ↔ ['.', '.'] <+: s.toList := ⟨fun | .first h => h, .first⟩

instance : (names : List String) → Decidable (LooksUp names)
  | [] => isFalse nofun
  | _ :: _ => decidable_of_iff _ looksUp_cons_iff.symm

theorem exists_toList_intercalate (s : String) (names : List String) :
    ∃ rest, ("/".intercalate (s :: names)).toList = s.toList ++ rest := by
  cases names with
  | nil => exact ⟨[], by rw [String.intercalate_singleton, List.append_nil]⟩
  | cons t names =>
    rw [String.intercalate_cons_of_ne_nil (List.cons_ne_nil t names), String.toList_append,
      String.toList_append, List.append_assoc]
    exact ⟨_, rfl⟩

/-- Joined names begin with two dots if and only if the first of them does. -/
theorem dots_prefix_intercalate_iff (names : List String) :
    ['.', '.'] <+: ("/".intercalate names).toList ↔ LooksUp names := by
  cases names with
  | nil => decide
  | cons s names =>
    rw [looksUp_cons_iff]
    constructor
    · intro h
      by_contra hs
      exact dots_prefix_intercalate hs h
    · intro h
      obtain ⟨rest, hrest⟩ := exists_toList_intercalate s names
      rw [hrest]
      exact h.trans (List.prefix_append s.toList rest)

/-- The parts of a normal form that does not climb are the root and components. -/
theorem IsNormal.root_or_component {ps : List Part} (h : IsNormal ps) (hup : .up ∉ ps)
    {part : Part} (hpart : part ∈ ps) : part = .root ∨ ∃ s, IsComponent s ∧ part = .name s := by
  obtain ⟨base, names, hbase, hnames, rfl⟩ := h
  rcases List.mem_append.mp hpart with hpart | hpart
  · rcases hbase with rfl | ⟨n, rfl⟩
    · exact Or.inl (List.mem_singleton.mp hpart)
    · rw [List.eq_of_mem_replicate hpart] at hpart
      exact absurd (List.mem_append_left _ hpart) hup
  · obtain ⟨s, hs, rfl⟩ := List.mem_map.mp hpart
    exact Or.inr ⟨s, hnames s hs, rfl⟩

/-- What comes first on a way down that looks like a climb is one name.  It can only be `..` itself
if it is the last name as well, and has lost its extension. -/
theorem exists_cons_of_looksUp : ∀ {parts : List Part},
    (∀ part ∈ parts, part = .root ∨ ∃ s, IsComponent s ∧ part = .name s) →
    LooksUp (mapLast dropSourceExtension (parts.map Part.text)) →
    ∃ s rest, mapLast dropSourceExtension (parts.map Part.text) = s :: rest ∧
      ['.', '.'] <+: s.toList ∧ '/' ∉ s.toList ∧ (s = ".." → rest = [])
  | [], _, h => nomatch h
  | [part], hparts, h => by
    rcases hparts part List.mem_cons_self with rfl | ⟨s, hs, rfl⟩
    · exact absurd h (by decide)
    · have hslash : '/' ∉ (PathChar.text s).toList :=
        mt PathChar.char_mem_ofText.mpr (isComponent_text_iff.mpr hs).no_slash
      exact ⟨_, [], rfl, looksUp_cons_iff.mp h, no_slash_dropSourceExtension hslash, fun _ => rfl⟩
  | part :: next :: parts, hparts, h => by
    have hdots : ['.', '.'] <+: part.text.toList := looksUp_cons_iff.mp h
    rcases hparts part List.mem_cons_self with rfl | ⟨s, hs, rfl⟩
    · exact absurd hdots (by decide)
    · have hname := isComponent_text_iff.mpr hs
      exact ⟨PathChar.text s, _, rfl, hdots, mt PathChar.char_mem_ofText.mpr hname.no_slash,
        fun heq => absurd (congrArg PathChar.ofText heq) hname.ne_dots⟩

/-- **A way that looks like a climb is the name of a package**, unless it is nothing but dots. -/
theorem isRelative_intercalate_iff {s : String} {rest : List String}
    (hdots : ['.', '.'] <+: s.toList) (hslash : '/' ∉ s.toList) (hrest : s = ".." → rest = []) :
    IsRelative ("/".intercalate (s :: rest)) ↔ s :: rest = [".."] := by
  constructor
  · intro h
    obtain ⟨cs, hcs⟩ := hdots
    obtain ⟨tail, htail⟩ := exists_toList_intercalate s rest
    rw [← hcs] at htail
    have hnil : cs = [] := by
      rcases h with h | ⟨more, h⟩ | ⟨more, h⟩
      · rw [h] at htail
        have hempty : [] = cs ++ tail := (List.cons.inj (List.cons.inj htail).2).2
        exact (List.append_eq_nil_iff.mp hempty.symm).1
      · rw [htail] at h
        exact absurd (List.cons.inj (List.cons.inj h).2).1 (by decide)
      · rw [htail] at h
        have hcut : '/' :: more = cs ++ tail := (List.cons.inj (List.cons.inj h).2).2
        cases cs with
        | nil => rfl
        | cons c cs =>
          refine absurd ?_ hslash
          rw [← hcs, (List.cons.inj hcut).1]
          simp
    have hs : s = ".." := by
      rw [← String.toList_inj, ← hcs, hnil]
      rfl
    rw [hs, hrest hs]
  · intro h
    rw [h]
    decide

/-! ## 3. What a specifier looks like -/

/-- A specifier is read as a path, and says whether that path climbs. -/
structure Explicit (source target : Path) : Prop where
  relative : IsRelative (source.specifier target)
  here : "./".toList <+: (source.specifier target).toList ↔ Inside source target

theorem specifier_of_not_inside {source target : Path} (h : ¬ Inside source target) :
    source.specifier target = ".." ∨ "../".toList <+: (source.specifier target).toList := by
  obtain ⟨rest, hrest⟩ := exists_way_of_not_inside h
  have hlooks : LooksUp (".." :: rest) := .first (by decide)
  rw [specifier_eq_ite, hrest, if_pos ((dots_prefix_intercalate_iff _).mpr hlooks)]
  cases rest with
  | nil => exact Or.inl (by decide)
  | cons s rest =>
    refine Or.inr ?_
    rw [String.intercalate_cons_of_ne_nil (List.cons_ne_nil s rest), String.toList_append]
    exact List.prefix_append _ _

theorem specifier_of_inside {source target : Path} (h : Inside source target)
    (hlooks : ¬ LooksUp (down source target)) :
    source.specifier target = "./" ++ "/".intercalate (down source target) := by
  rw [specifier_eq_ite, way_of_inside h,
    if_neg (mt (dots_prefix_intercalate_iff _).mp hlooks)]

theorem specifier_of_looksUp {source target : Path} (h : Inside source target)
    (hlooks : LooksUp (down source target)) :
    source.specifier target = "/".intercalate (down source target) := by
  rw [specifier_eq_ite, way_of_inside h, if_pos ((dots_prefix_intercalate_iff _).mpr hlooks)]

/-- A specifier cannot begin with `./` and with two dots. -/
theorem not_here_of_dots {s : String} (h : ['.', '.'] <+: s.toList) :
    ¬ "./".toList <+: s.toList := by
  obtain ⟨more, hmore⟩ := h
  rw [← hmore]
  rintro ⟨rest, hrest⟩
  exact absurd (List.cons.inj (List.cons.inj hrest).2).1 (by decide)

/-- **A specifier is explicit unless the way goes down and looks like a climb.** -/
theorem explicit_iff (source target : Path) : Explicit source target ↔
    ¬ (Inside source target ∧ LooksUp (down source target)) := by
  constructor
  · rintro h ⟨hinside, hlooks⟩
    refine not_here_of_dots ?_ (h.here.mpr hinside)
    rw [specifier_of_looksUp hinside hlooks]
    exact (dots_prefix_intercalate_iff _).mpr hlooks
  · intro h
    by_cases hinside : Inside source target
    · have hspecifier := specifier_of_inside hinside fun hlooks => h ⟨hinside, hlooks⟩
      have hhere : "./".toList <+: (source.specifier target).toList := by
        rw [hspecifier, String.toList_append]
        exact List.prefix_append _ _
      exact ⟨Or.inr (Or.inl hhere), fun _ => hinside, fun _ => hhere⟩
    · have hdots : ['.', '.'] <+: (source.specifier target).toList := by
        rcases specifier_of_not_inside hinside with hup | hup
        · rw [hup]
          decide
        · exact (show ['.', '.'] <+: "../".toList by decide).trans hup
      refine ⟨(specifier_of_not_inside hinside).imp_right Or.inr, ?_⟩
      exact ⟨fun hhere => absurd hhere (not_here_of_dots hdots), fun hin => absurd hin hinside⟩

/-- **What a specifier looks like**, for a target whose normal form does not climb: it is explicit
unless the way goes down and looks like a climb.  Outside the directory of the file it climbs;
inside, it is the way down with `./` in front, or without it where that way looks like a climb, and
then it is the name of a package unless nothing is left but two dots. -/
theorem forms_of_specifier (source target : Path) (htarget : .up ∉ target.normalize.parts) :
    (Explicit source target ↔ ¬ (Inside source target ∧ LooksUp (down source target))) ∧
    (¬ Inside source target →
      source.specifier target = ".." ∨ "../".toList <+: (source.specifier target).toList) ∧
    (Inside source target → ¬ LooksUp (down source target) →
      source.specifier target = "./" ++ "/".intercalate (down source target)) ∧
    (Inside source target → LooksUp (down source target) →
      source.specifier target = "/".intercalate (down source target) ∧
      (IsRelative (source.specifier target) ↔ down source target = [".."])) := by
  refine ⟨explicit_iff source target, specifier_of_not_inside, specifier_of_inside, ?_⟩
  intro hinside hlooks
  have hnormal : IsNormal target.normalize.parts := by
    rw [parts_normalize]
    exact isNormal_normalizeParts target
  obtain ⟨s, rest, hdown, hdots, hslash, hrest⟩ := exists_cons_of_looksUp
    (fun part hpart => hnormal.root_or_component htarget (List.mem_of_mem_drop hpart)) hlooks
  have hspecifier := specifier_of_looksUp hinside hlooks
  refine ⟨hspecifier, ?_⟩
  rw [hspecifier, down, hdown]
  exact isRelative_intercalate_iff hdots hslash hrest

/-- A directory whose name begins with dots, beside the file. -/
theorem forms_of_specifier_drafts :
    let source : Path := ⟨"src/user.ts"⟩
    let target : Path := ⟨"src/..drafts/post.ts"⟩
    .up ∉ target.normalize.parts ∧ Inside source target ∧
      source.specifier target = "..drafts/post" ∧ ¬ IsRelative (source.specifier target) := by
  intro source target
  have htarget : .up ∉ target.normalize.parts := by decide +kernel
  have hinside : Inside source target := by decide +kernel
  have hdown : down source target = ["..drafts", "post"] := by decide +kernel
  have hlooks : LooksUp (down source target) := by
    rw [hdown]
    decide
  obtain ⟨-, -, -, hforms⟩ := forms_of_specifier source target htarget
  obtain ⟨hspecifier, hrelative⟩ := hforms hinside hlooks
  refine ⟨htarget, hinside, ?_, ?_⟩
  · rw [hspecifier, hdown]
    decide
  · rw [hrelative, hdown]
    decide

/-- **A specifier that says neither `./` nor `../`**: between two paths that are no climbs, one below
the directory of the other. -/
theorem bare_specifier_drafts : ¬ ∀ source target : Path, .up ∉ source.normalize.parts →
    .up ∉ target.normalize.parts → Explicit source target := by
  intro h
  have hrelative : ¬ IsRelative ((⟨"user.ts"⟩ : Path).specifier ⟨"..drafts/post.ts"⟩) := by
    decide +kernel
  exact hrelative (h ⟨"user.ts"⟩ ⟨"..drafts/post.ts"⟩ (by decide +kernel)
    (by decide +kernel)).relative

end SchemaClass.Path
