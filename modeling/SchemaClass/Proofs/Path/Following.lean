import SchemaClass.Proofs.Naming
import SchemaClass.Proofs.Path.Specifier
/-!
# Following a specifier

A specifier is made for whoever reads it in the file it was made for: from the directory of that
file on, its steps have to lead to the other file.  They do, whatever the names of the directories
are, as long as there is a way at all and each name can be written.  There is no way from the root
to itself, to a directory that the file is in, or to a file whose name would be read as a step of
another kind once the extension has been left out.  A name cannot be written if it is no text: stray
bytes are shown as replacement characters, and what is read back is a name of such characters.

* `isText_of_mem_parts`: the names of a text are texts;
* `isComponent_text_iff`: a name is never shown as a step of another kind;
* `dropExtension_cases`: a name is what is left of it, or that with a source extension;
* `followed_of_way`: where the specifier between two files leads;
* `Resolver.exists_names_anchor`: an anchored path is the root and components;
* `Resolver.legible_of_isText`: what is written of a text is a text;
* `Resolver.followed_specifier_of_leads`: followed from the one file, the specifier leads to the
  other, by its names as they are shown;
* `Resolver.followed_specifier_iff`: so it leads to the other exactly if what is written is a text;
* `Resolver.specifiers_lead`: and no two such files have one specifier, except for their extensions;
* `Resolver.specifier_of_stray_bytes`: two files that are not so.
-/

namespace SchemaClass.Path

open PathChar (slash)

/-! ## 1. How names are written -/

/-- Characters as they are written, which is as they are shown. -/
def legible (cs : List PathChar) : List PathChar := PathChar.ofText (PathChar.text cs)

/-- Characters that are a text: nothing is lost when they are written. -/
def IsText (cs : List PathChar) : Prop := legible cs = cs

instance (cs : List PathChar) : Decidable (IsText cs) := inferInstanceAs (Decidable (_ = _))

@[simp] theorem isText_ofText (s : String) : IsText (PathChar.ofText s) := by
  rw [IsText, legible, PathChar.text_ofText]

/-- Whether there is a text is a question of each character. -/
theorem isText_iff {cs : List PathChar} : IsText cs ↔ ∀ c ∈ cs, PathChar.char c.shown = c := by
  rw [IsText, legible, PathChar.text, PathChar.ofText, String.toList_ofList, List.map_map]
  conv => lhs; rhs; rw [← List.map_id cs]
  exact List.map_inj_left

theorem isText_append_iff {cs ds : List PathChar} : IsText (cs ++ ds) ↔ IsText cs ∧ IsText ds := by
  simp only [isText_iff, List.forall_mem_append]

/-- The names of a text are texts. -/
theorem isText_of_mem_parts {p : Path} (h : IsText p.chars) {part : Part} (hpart : part ∈ p.parts) :
    IsText part.chars := by
  rw [parts_eq_lead_append, List.mem_append] at hpart
  rcases hpart with hlead | hstep
  · rw [lead] at hlead
    split_ifs at hlead
    · rw [List.mem_singleton.mp hlead]
      decide
    · rw [List.mem_singleton.mp hlead]
      decide
    · cases hlead
  · obtain ⟨s, hs, hstep⟩ := List.mem_filterMap.mp hstep
    rw [segments, List.splitOn_eq_splitOnP] at hs
    have htext : IsText s := isText_iff.mpr fun c hc =>
      isText_iff.mp h c (Text.mem_of_mem_splitOnP hs c hc).1
    rw [Part.ofSegment?] at hstep
    split_ifs at hstep
    · cases hstep
      decide
    · cases hstep
      exact htext

theorem isText_join {p q : Path} (hp : IsText p.chars) (hq : IsText q.chars) :
    IsText (p.join q).chars := by
  cases habsolute : q.isAbsolute with
  | true => rwa [join_absolute p habsolute]
  | false =>
    rw [chars_join p habsolute, isText_append_iff, opened]
    refine ⟨?_, hq⟩
    split
    · exact hp
    · exact isText_append_iff.mpr ⟨hp, by decide⟩

/-- Where no replacement character is shown, a text is. -/
theorem eq_ofText_of_text_eq : ∀ {cs : List PathChar} {s : String}, PathChar.text cs = s →
    '\ufffd' ∉ s.toList → cs = PathChar.ofText s
  | [], _, rfl, _ => rfl
  | .char c :: cs, _, rfl, h => by
    have hrest : cs = PathChar.ofText (PathChar.text cs) := eq_ofText_of_text_eq rfl fun hc =>
      h (by simpa [PathChar.text] using Or.inr hc)
    rw [hrest]
    simp [PathChar.text, PathChar.ofText, Function.comp_def, PathChar.shown]
  | .stray _ :: _, _, rfl, h => absurd (by simp [PathChar.text, PathChar.shown]) h

/-- **No name is shown as a step of another kind**, and nothing else as a name. -/
theorem isComponent_text_iff {s : List PathChar} :
    IsComponent (PathChar.text s) ↔ IsComponent s := by
  have hslash : slash ∈ s ↔ '/' ∈ (PathChar.text s).toList := by
    rw [PathChar.text, String.toList_ofList, List.mem_map]
    constructor
    · exact fun h => ⟨slash, h, rfl⟩
    · rintro ⟨c | bytes, hc, hshown⟩
      · obtain rfl : c = '/' := hshown
        exact hc
      · cases hshown
  constructor
  · rintro ⟨hempty, hdot, hdots, hno⟩
    refine ⟨?_, ?_, ?_, mt (hslash.mp · |> PathChar.char_mem_ofText.mpr) hno⟩
    · rintro rfl
      exact hempty rfl
    · rintro rfl
      exact hdot rfl
    · rintro rfl
      exact hdots rfl
  · rintro ⟨hempty, hdot, hdots, hno⟩
    exact isComponent_ofText
      (fun h => hempty (eq_ofText_of_text_eq h (by decide)))
      (fun h => hdot (eq_ofText_of_text_eq h (by decide)))
      (fun h => hdots (eq_ofText_of_text_eq h (by decide))) (mt hslash.mpr hno)

/-- What is left of a component is a component, unless it is dots. -/
theorem isComponent_dropSourceExtension {s : String} (h : IsComponent s)
    (hdot : dropSourceExtension s ≠ ".") (hdots : dropSourceExtension s ≠ "..") :
    IsComponent (dropSourceExtension s) := by
  have hslash : '/' ∉ s.toList := mt PathChar.char_mem_ofText.mpr h.no_slash
  refine isComponent_ofText ?_ hdot hdots (no_slash_dropSourceExtension hslash)
  rcases dropSourceExtension_cases s with heq | ⟨hne, -⟩
  · rw [heq]
    rintro rfl
    exact h.ne_empty rfl
  · exact hne

/-- What is left of a name is shown as what is left of the name that is shown. -/
theorem text_dropExtension (s : List PathChar) :
    PathChar.text (dropExtension s) = dropSourceExtension (PathChar.text s) := by
  rw [dropExtension, ← String.toList_inj, PathChar.text, String.toList_ofList, List.map_take,
    ← String.length_toList]
  have hshown : s.map PathChar.shown = (PathChar.text s).toList := String.toList_ofList.symm
  rw [hshown, ← List.prefix_iff_eq_take.mp (dropSourceExtension_isPrefix _)]

/-- **A name is what is left of it, or that with a source extension behind it**, whatever else it is
made of. -/
theorem dropExtension_cases (s : List PathChar) : dropExtension s = s ∨
    ∃ extension ∈ sourceExtensions, s = dropExtension s ++ PathChar.ofText ("." ++ extension) := by
  have hsplit : dropExtension s ++ s.drop (dropSourceExtension (PathChar.text s)).length = s :=
    List.take_append_drop ..
  rcases dropSourceExtension_cases (PathChar.text s) with heq | ⟨-, extension, hmem, heq⟩
  · left
    rw [dropExtension, heq, PathChar.text, String.length_ofList, List.length_map, List.take_length]
  · refine Or.inr ⟨extension, hmem, ?_⟩
    generalize s.drop (dropSourceExtension (PathChar.text s)).length = rest at hsplit
    have hrest : PathChar.text rest = "." ++ extension := by
      have htext := congrArg PathChar.text hsplit
      rw [PathChar.text_append, text_dropExtension] at htext
      exact (String.append_right_inj _).mp (htext.trans (heq.trans (String.append_assoc ..)))
    -- no extension has a replacement character, so what is shown of it is all of it
    have hplain : ∀ extension ∈ sourceExtensions, '\ufffd' ∉ ("." ++ extension).toList := by decide
    rw [← eq_ofText_of_text_eq hrest (hplain extension hmem), hsplit]

theorem isText_dropExtension_iff {s : List PathChar} :
    IsText (dropExtension s) ↔ IsText s := by
  rcases dropExtension_cases s with heq | ⟨extension, -, heq⟩
  · rw [heq]
  · conv => rhs; rw [heq]
    rw [isText_append_iff]
    exact (and_iff_left (isText_ofText _)).symm

/-! ## 2. Where the specifier between two files leads -/

theorem dropCommon_spec {α : Type} [DecidableEq α] : ∀ as bs : List α, ∃ common,
    as = common ++ (dropCommon as bs).1 ∧ bs = common ++ (dropCommon as bs).2 ∧
      ∀ a, (dropCommon as bs).1.head? = some a → (dropCommon as bs).2.head? ≠ some a
  | [], bs => ⟨[], by simp [dropCommon], by simp [dropCommon], by simp [dropCommon]⟩
  | a :: as, [] => ⟨[], by simp [dropCommon], by simp [dropCommon], by simp [dropCommon]⟩
  | a :: as, b :: bs => by
    by_cases h : a = b
    · obtain ⟨common, has, hbs, hhead⟩ := dropCommon_spec as bs
      rw [dropCommon, if_pos h]
      refine ⟨a :: common, ?_, ?_, hhead⟩
      · rw [List.cons_append, ← has]
      · rw [List.cons_append, ← hbs, h]
    · rw [dropCommon, if_neg h]
      refine ⟨[], rfl, rfl, ?_⟩
      intro c hc hb
      cases hc
      cases hb
      exact h rfl

/-- A specifier is the joined way, with or without a dot before it. -/
theorem exists_lead_specifier {source target : Path} (h : way source target ≠ []) :
    ∃ lead, (lead = [] ∨ lead = ["."]) ∧
      source.specifier target = "/".intercalate (lead ++ way source target) := by
  rw [specifier_eq_ite]
  split
  · exact ⟨[], Or.inl rfl, congrArg _ (List.nil_append _).symm⟩
  · have hdot : "./" = "." ++ "/" := by decide
    refine ⟨["."], Or.inr rfl, ?_⟩
    rw [List.singleton_append, String.intercalate_cons_of_ne_nil h, hdot]

section Way

variable {source target : Path} {base : List Part} {above below : List (List PathChar)}
  (hsource : source.directory.parts = base ++ above.map .name)
  (htarget : target.normalize.parts = base ++ below.map .name)
  (hpart : ∀ s, above.head? = some s → below.head? ≠ some s) (hbelow : below ≠ [])
  (hnames : ∀ s ∈ mapLast dropSourceExtension (below.map PathChar.text), IsComponent s)

include hsource htarget hpart hbelow hnames

/-- The steps of a specifier are up and then down. -/
theorem steps_specifier : (⟨source.specifier target⟩ : Path).isAbsolute = false ∧
    steps (⟨source.specifier target⟩ : Path).segments
      = List.replicate above.length .up
        ++ ((mapLast dropSourceExtension (below.map PathChar.text)).map PathChar.ofText).map
          .name := by
  have hway := way_eq hsource htarget hpart hbelow
  have hne : way source target ≠ [] := by
    rw [hway]
    exact List.append_ne_nil_of_right_ne_nil _ (mapLast_ne_nil (by simpa using hbelow))
  obtain ⟨lead, hlead, hspecifier⟩ := exists_lead_specifier hne
  have htexts : ∀ s ∈ lead ++ way source target, s ≠ "" ∧ '/' ∉ s.toList := by
    intro s hs
    rw [hway, List.mem_append, List.mem_append] at hs
    rcases hs with hs | hs | hs
    · rcases hlead with rfl | rfl
      · exact absurd hs List.not_mem_nil
      · rw [List.mem_singleton.mp hs]
        decide
    · rw [List.eq_of_mem_replicate hs]
      decide
    · exact ⟨fun h => (hnames s hs).ne_empty (PathChar.ofText_inj.mpr h),
        mt PathChar.char_mem_ofText.mpr (hnames s hs).no_slash⟩
  have hslash : ∀ s ∈ lead ++ way source target, '/' ∉ s.toList := fun s hs => (htexts s hs).2
  have hdots : steps (lead.map PathChar.ofText) = [] := by
    rcases hlead with rfl | rfl
    · rfl
    · rfl
  have hups : steps ((List.replicate above.length "..").map PathChar.ofText)
      = List.replicate above.length .up := by
    have hup : Part.ofSegment? ".." = some .up := by decide
    rw [List.map_replicate, steps, List.filterMap_replicate_of_some hup]
  rw [hspecifier]
  constructor
  · obtain ⟨first, rest, hcons⟩ :=
      List.exists_cons_of_ne_nil (List.append_ne_nil_of_right_ne_nil lead hne)
    rw [hcons] at htexts hslash ⊢
    exact isAbsolute_intercalate (htexts first List.mem_cons_self).1 hslash
  · rw [segments_intercalate (List.append_ne_nil_of_right_ne_nil lead hne) hslash, hway,
      List.map_append, steps_append, hdots, List.nil_append, List.map_append, steps_append, hups,
      steps_names hnames]

/-- **Followed from the one file, the specifier leads to the other**, by its names as they are
shown. -/
theorem followed_of_way : followed source (source.specifier target)
    = ofParts (base ++
      ((mapLast dropSourceExtension (below.map PathChar.text)).map PathChar.ofText).map .name) := by
  obtain ⟨hrelative, hsteps⟩ := steps_specifier hsource htarget hpart hbelow hnames
  rw [followed, Path.normalize, normalizeParts_join _ hrelative, parts_parent,
    ← parts_directory, hsource, hsteps, reach_append, reach_climb, reach_names]

end Way

/-! ## 3. Anchored paths -/

/-- Steps lead from places below the root to places below the root. -/
theorem exists_names_reach : ∀ {steps : List Part} {names : List (List PathChar)},
    (∀ s ∈ names, IsComponent s) →
    (∀ part ∈ steps, part = .up ∨ ∃ s, IsComponent s ∧ part = .name s) →
    ∃ reached : List (List PathChar), (∀ s ∈ reached, IsComponent s) ∧
      reach ([.root] ++ names.map .name) steps = [.root] ++ reached.map .name
  | [], names, hnames, _ => ⟨names, hnames, reach_nil _⟩
  | part :: steps, names, hnames, hsteps => by
    have hrest : ∀ part ∈ steps, part = .up ∨ ∃ s, IsComponent s ∧ part = .name s :=
      fun q hq => hsteps q (List.mem_cons_of_mem _ hq)
    rw [reach_cons]
    rcases hsteps part List.mem_cons_self with rfl | ⟨s, hs, rfl⟩
    · rcases List.eq_nil_or_concat names with rfl | ⟨names, s, rfl⟩
      · -- there is nothing above the root
        exact exists_names_reach hnames hrest
      · rw [List.concat_eq_append] at hnames ⊢
        rw [List.map_append, List.map_singleton, ← List.append_assoc, reach_up_name]
        exact exists_names_reach (fun t ht => hnames t (List.mem_append_left _ ht)) hrest
    · have hmore : ∀ t ∈ names ++ [s], IsComponent t := by
        intro t ht
        rcases List.mem_append.mp ht with ht | ht
        · exact hnames t ht
        · exact List.mem_singleton.mp ht ▸ hs
      have hplace : [Part.root] ++ names.map .name ++ [.name s]
          = [.root] ++ (names ++ [s]).map .name := by simp
      rw [reach_name, hplace]
      exact exists_names_reach hmore hrest

/-- The normal form of an absolute path is the root and components. -/
theorem exists_names_normalizeParts {p : Path} (h : p.isAbsolute = true) :
    ∃ names : List (List PathChar), (∀ s ∈ names, IsComponent s) ∧
      normalizeParts p.parts = [.root] ++ names.map .name := by
  rw [normalizeParts_eq_reach_lead, if_pos h]
  exact @exists_names_reach _ [] (fun s hs => absurd hs List.not_mem_nil)
    fun part hpart => mem_steps hpart

namespace Resolver

/-- **An anchored path is the root and components**, if the root of the resolver is absolute. -/
theorem exists_names_anchor {r : Resolver} (hroot : r.root.isAbsolute = true) (p : Path) :
    ∃ names : List (List PathChar), (∀ s ∈ names, IsComponent s) ∧
      (r.anchor p).parts = [.root] ++ names.map .name := by
  rw [anchor, parts_normalize]
  refine exists_names_normalizeParts ?_
  cases hp : p.isAbsolute with
  | true => rwa [join_absolute _ hp]
  | false =>
    have hchars : r.root.chars ≠ [] := by
      intro hnil
      rw [isAbsolute, hnil] at hroot
      cases hroot
    rwa [isAbsolute_join hchars hp]

theorem isNormal_anchor (r : Resolver) (p : Path) : IsNormal (r.anchor p).parts := by
  rw [anchor, parts_normalize]
  exact isNormal_normalizeParts _

theorem ofParts_anchor (r : Resolver) (p : Path) : ofParts (r.anchor p).parts = r.anchor p := by
  rw [anchor, parts_normalize]
  rfl

/-- The directory of a file is one step above it, if the file is not the root itself. -/
theorem exists_names_directory {r : Resolver} (hroot : r.root.isAbsolute = true) {source : Path}
    (hsource : r.anchor source ≠ ⟨"/"⟩) : ∃ names : List (List PathChar),
      (r.anchor source).directory.parts = [.root] ++ names.map .name := by
  obtain ⟨names, hnames, hparts⟩ := exists_names_anchor hroot source
  rcases List.eq_nil_or_concat names with rfl | ⟨above, s, rfl⟩
  · refine absurd ?_ hsource
    rw [← ofParts_anchor, hparts]
    decide
  · rw [List.concat_eq_append] at hnames hparts
    have hnormal : IsNormal ([.root] ++ above.map .name) :=
      isNormal_root.append_names fun t ht => hnames t (List.mem_append_left _ ht)
    rw [List.map_append, List.map_singleton, ← List.append_assoc] at hparts
    refine ⟨above, ?_⟩
    rw [parts_directory, hparts, List.dropLast_concat, normalizeParts_eq_self hnormal]

/-! ## 4. From one file to another -/

/-- There is a way from the file `source` to `target`. -/
structure Leads (r : Resolver) (source target : Path) : Prop where
  /-- The target is no directory that the file is in. -/
  apart : ¬ (r.anchor target).parts <+: (r.anchor source).directory.parts
  /-- Its name is not written as a step of another kind. -/
  named : ∀ s, (r.anchor target).parts.getLast? = some (.name s) →
    dropSourceExtension (PathChar.text s) ≠ "." ∧ dropSourceExtension (PathChar.text s) ≠ ".."

/-- A place and a name are all that there is to know of the target. -/
theorem Leads.of_parts {r : Resolver} {source target : Path} {place : List Part}
    {s : List PathChar} (hparts : (r.anchor target).parts = place ++ [.name s])
    (hapart : ¬ place ++ [.name s] <+: (r.anchor source).directory.parts)
    (hdot : dropSourceExtension (PathChar.text s) ≠ ".")
    (hdots : dropSourceExtension (PathChar.text s) ≠ "..") : r.Leads source target := by
  constructor
  · rwa [hparts]
  · intro t ht
    rw [hparts, List.getLast?_concat] at ht
    cases ht
    exact ⟨hdot, hdots⟩

/-- What the specifier writes of the target: its names behind what it has in common with the
directory of the file. -/
def written (r : Resolver) (source target : Path) : List Part :=
  (dropCommon (r.anchor source).directory.parts (r.anchor target).parts).2

/-- Whatever the specifier writes is a text. -/
def Legible (r : Resolver) (source target : Path) : Prop :=
  ∀ part ∈ r.written source target, IsText part.chars

instance (r : Resolver) (source target : Path) : Decidable (r.Legible source target) :=
  inferInstanceAs (Decidable (∀ part ∈ _, _))

/-- **What is written of a text is a text.** -/
theorem legible_of_isText {r : Resolver} (hroot : IsText r.root.chars) {target : Path}
    (htarget : IsText target.chars) (source : Path) : r.Legible source target := by
  intro part hpart
  obtain ⟨common, -, hrest, -⟩ :=
    dropCommon_spec (r.anchor source).directory.parts (r.anchor target).parts
  have hmem : part ∈ (r.anchor target).parts := by
    rw [hrest]
    exact List.mem_append_right _ hpart
  rw [anchor, parts_normalize, normalizeParts_eq_reach] at hmem
  rcases mem_reach hmem with hnil | hjoined
  · cases hnil
  · exact isText_of_mem_parts (isText_join hroot htarget) hjoined

/-- **Where the specifier leads, followed from the one file**: to the other, if its names are read
as they are written, and the source extension of the last is left out. -/
theorem followed_specifier_of_leads {r : Resolver} (hroot : r.root.isAbsolute = true)
    {source target : Path} (hsource : r.anchor source ≠ ⟨"/"⟩) (h : r.Leads source target) :
    ∃ (base : List Part) (folders : List (List PathChar)) (s : List PathChar),
      (r.anchor target).parts = base ++ (folders ++ [s]).map .name ∧
      r.written source target = (folders ++ [s]).map .name ∧
      IsNormal (base ++ (folders ++ [dropExtension s]).map .name) ∧
      IsNormal (base ++ ((folders ++ [dropExtension s]).map legible).map .name) ∧
      followed (r.anchor source) (r.specifier source target)
        = ofParts (base ++ ((folders ++ [dropExtension s]).map legible).map .name) := by
  obtain ⟨above, habove⟩ := exists_names_directory hroot hsource
  obtain ⟨names, hnames, htarget⟩ := exists_names_anchor hroot target
  obtain ⟨common, hcommon, hrest, hpart⟩ := dropCommon_spec above names
  rcases List.eq_nil_or_concat (dropCommon above names).2 with hnil | ⟨folders, s, hbelow⟩
  · -- nothing is left of the target, which is a directory that the file is in
    refine absurd ?_ h.apart
    rw [hnil, List.append_nil] at hrest
    rw [habove, htarget, hrest, hcommon, List.map_append, ← List.append_assoc]
    exact List.prefix_append _ _
  · rw [List.concat_eq_append] at hbelow
    rw [hbelow] at hrest hpart
    have hsourceParts : (r.anchor source).directory.parts
        = ([.root] ++ common.map .name) ++ (dropCommon above names).1.map .name := by
      rw [habove, List.append_assoc, ← List.map_append, ← hcommon]
    have hplace : (r.anchor target).parts
        = ([.root] ++ common.map .name) ++ (folders ++ [s]).map .name := by
      rw [htarget, hrest, List.append_assoc, ← List.map_append]
    have htargetParts : (r.anchor target).normalize.parts
        = ([.root] ++ common.map .name) ++ (folders ++ [s]).map .name := by
      rw [anchor, normalize_normalize, ← anchor, hplace]
    have hwritten : r.written source target = (folders ++ [s]).map .name := by
      rw [written, hsourceParts, hplace, dropCommon_append, dropCommon_names hpart]
    have hend : (r.anchor target).parts.getLast? = some (.name s) := by
      rw [hplace, List.map_append, ← List.append_assoc, List.map_singleton, List.getLast?_concat]
    obtain ⟨hdot, hdots⟩ := h.named s hend
    -- what is written of the target is made of components, and so is what that is made from
    have hlast := isComponent_dropSourceExtension
      (isComponent_text_iff.mpr (hnames s (by rw [hrest]; simp))) hdot hdots
    rw [← text_dropExtension] at hlast
    have hbelowNames : ∀ t ∈ folders ++ [dropExtension s], IsComponent t := by
      intro t ht
      rcases List.mem_append.mp ht with ht | ht
      · exact hnames t (by rw [hrest]; simp [ht])
      · exact List.mem_singleton.mp ht ▸ isComponent_text_iff.mp hlast
    have hlegible : ∀ t ∈ (folders ++ [dropExtension s]).map legible, IsComponent t := by
      intro t ht
      obtain ⟨u, hu, rfl⟩ := List.mem_map.mp ht
      exact isComponent_text_iff.mpr (hbelowNames u hu)
    have hbase : IsNormal ([.root] ++ common.map .name) :=
      isNormal_root.append_names fun t ht => hnames t (by rw [hrest]; simp [ht])
    have hway : mapLast dropSourceExtension ((folders ++ [s]).map PathChar.text)
        = (folders ++ [dropExtension s]).map PathChar.text := by
      rw [List.map_append, List.map_append, List.map_singleton, mapLast_singleton,
        List.map_singleton, text_dropExtension]
    have hfollowed := followed_of_way hsourceParts htargetParts hpart (by simp) (by
      rw [hway]
      intro t ht
      obtain ⟨u, hu, rfl⟩ := List.mem_map.mp ht
      exact isComponent_text_iff.mpr (hbelowNames u hu))
    rw [hway, List.map_map (f := PathChar.text)] at hfollowed
    exact ⟨_, folders, s, hplace, hwritten, hbase.append_names hbelowNames,
      hbase.append_names hlegible, hfollowed⟩

theorem withoutExtension_anchor {r : Resolver} {target : Path} {base : List Part}
    {folders : List (List PathChar)} {s : List PathChar}
    (h : (r.anchor target).parts = base ++ (folders ++ [s]).map .name) :
    (r.anchor target).withoutExtension
      = ofParts (base ++ (folders ++ [dropExtension s]).map .name) := by
  rw [withoutExtension, normalizeParts_eq_self (isNormal_anchor r target), h, List.map_append,
    List.map_append, ← List.append_assoc, ← List.append_assoc]
  exact congrArg ofParts (mapLast_singleton ..)

/-- Names are written as they are exactly if they are texts, with or without an extension. -/
theorem map_legible_eq_iff {folders : List (List PathChar)} {s : List PathChar} :
    (folders ++ [dropExtension s]).map legible = folders ++ [dropExtension s] ↔
      ∀ t ∈ folders ++ [s], IsText t := by
  have hself : ∀ names : List (List PathChar),
      names.map legible = names ↔ ∀ t ∈ names, IsText t := fun names => by
    conv => lhs; rhs; rw [← List.map_id names]
    exact List.map_inj_left
  rw [hself]
  simp only [List.forall_mem_append, List.forall_mem_singleton, isText_dropExtension_iff]

/-- **A specifier leads to the target exactly if what it writes is a text.** -/
theorem followed_specifier_iff {r : Resolver} (hroot : r.root.isAbsolute = true)
    {source target : Path} (hsource : r.anchor source ≠ ⟨"/"⟩) (h : r.Leads source target) :
    followed (r.anchor source) (r.specifier source target) = (r.anchor target).withoutExtension ↔
      r.Legible source target := by
  obtain ⟨base, folders, s, hparts, hwritten, hnormal, hlegible, hfollowed⟩ :=
    followed_specifier_of_leads hroot hsource h
  have hnames : r.Legible source target ↔ ∀ t ∈ folders ++ [s], IsText t := by
    rw [Legible, hwritten, List.forall_mem_map]
    rfl
  rw [hnames, ← map_legible_eq_iff, hfollowed, withoutExtension_anchor hparts]
  constructor
  · intro heq
    have hsame := congrArg Path.parts heq
    rw [parts_ofParts hlegible, parts_ofParts hnormal] at hsame
    exact (List.map_inj_right fun _ _ h => Part.name.inj h).mp (List.append_cancel_left hsame)
  · intro heq
    rw [heq]

end Resolver

/-- A stem, alone or with a source extension behind it. -/
def HasStem (stem s : List PathChar) : Prop :=
  s = stem ∨ ∃ extension ∈ sourceExtensions, s = stem ++ PathChar.ofText ("." ++ extension)

/-- A stem begins as the name does, unless the name begins with a dot. -/
theorem HasStem.head?_eq {stem s : List PathChar} {c : PathChar} (h : HasStem stem (c :: s))
    (hc : c ≠ .dot) : stem.head? = some c := by
  rcases h with rfl | ⟨extension, -, h⟩
  · rfl
  · cases stem with
    | nil =>
      have hdot : c :: s = .dot :: PathChar.ofText extension := by
        rw [h, List.nil_append, PathChar.ofText_append]
        rfl
      exact absurd (List.cons.inj hdot).1 hc
    | cons d stem => exact congrArg some (List.cons.inj h).1.symm

theorem hasStem_dropExtension (s : List PathChar) : HasStem (dropExtension s) s :=
  (dropExtension_cases s).imp_left Eq.symm

/-- Paths that differ in a source extension at most. -/
def EqualUpToExtension (p q : Path) : Prop :=
  ∃ place stem s t, p.parts = place ++ [.name s] ∧ q.parts = place ++ [.name t] ∧
    HasStem stem s ∧ HasStem stem t

/-- Targets that are one path without their extensions differ in these at most. -/
theorem Resolver.equalUpToExtension_of_withoutExtension {r : Resolver} {source target other : Path}
    (hroot : r.root.isAbsolute = true) (hsource : r.anchor source ≠ ⟨"/"⟩)
    (h : r.Leads source target) (h' : r.Leads source other)
    (hsame : (r.anchor target).withoutExtension = (r.anchor other).withoutExtension) :
    (r.anchor target).EqualUpToExtension (r.anchor other) := by
  obtain ⟨base, folders, s, hparts, -, hnormal, -⟩ := followed_specifier_of_leads hroot hsource h
  obtain ⟨base', folders', t, hparts', -, hnormal', -⟩ :=
    followed_specifier_of_leads hroot hsource h'
  rw [withoutExtension_anchor hparts, withoutExtension_anchor hparts'] at hsame
  have heq := congrArg Path.parts hsame
  rw [parts_ofParts hnormal, parts_ofParts hnormal', List.map_append, List.map_append,
    ← List.append_assoc, ← List.append_assoc, List.map_singleton, List.map_singleton] at heq
  obtain ⟨hplace, hlast⟩ :=
    List.append_inj' heq (by rw [List.length_singleton, List.length_singleton])
  have hstem : dropExtension s = dropExtension t := Part.name.inj (List.cons.inj hlast).1
  have hother : HasStem (dropExtension s) t := by
    rw [hstem]
    exact hasStem_dropExtension t
  refine ⟨base ++ folders.map .name, dropExtension s, s, t, ?_, ?_, hasStem_dropExtension s,
    hother⟩
  · rw [hparts, List.map_append, List.append_assoc]
    rfl
  · rw [hparts', hplace, List.map_append, List.append_assoc]
    rfl

end SchemaClass.Path
