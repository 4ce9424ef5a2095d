import SchemaClass.Proofs.Path.Following
/-!
# Canonical paths

A path can be spelled with detours: dots, names that are left again, slashes that separate nothing.
Its normal form has none of them, and nothing that is done with paths later can tell one spelling
from another: the parts of a joined path may be put into normal form before they are joined, since
steps lead from any place to where their normal form leads.

* `IsCanonical`: no dots in a path, except for climbs in front of a relative one;
* `reach_reach`: steps lead where their normal form leads, from any place;
* `normalize_join`: the normal form of a joined path depends on those of its parts;
* `Resolver.anchor_respelled`: so do the paths that are read from a root, and
* `normal_form_of_join`: so do the specifiers between them.
-/

namespace SchemaClass.Path

/-! ## 1. Canonical paths -/

/-- A path without `.`, in which `..` stands only where there is nothing to take back: in front, and
not below the root. -/
structure IsCanonical (p : Path) : Prop where
  no_here : Part.here ∉ p.parts
  of_absolute : p.isAbsolute = true → Part.up ∉ p.parts
  of_relative : p.isAbsolute = false →
    ∃ n rest, p.parts = List.replicate n .up ++ rest ∧ Part.up ∉ rest

/-- Steps that do not climb are components. -/
theorem exists_names_of_no_up : ∀ {ps : List Part},
    (∀ part ∈ ps, part = .up ∨ ∃ s, IsComponent s ∧ part = .name s) → .up ∉ ps →
    ∃ names : List (List PathChar), (∀ s ∈ names, IsComponent s) ∧ ps = names.map .name
  | [], _, _ => ⟨[], fun _ h => absurd h List.not_mem_nil, rfl⟩
  | part :: ps, hps, hup => by
    obtain ⟨hpart, hrest⟩ := not_or.mp (mt List.mem_cons.mpr hup)
    obtain ⟨names, hnames, rfl⟩ :=
      exists_names_of_no_up (fun q hq => hps q (List.mem_cons_of_mem _ hq)) hrest
    rcases hps part List.mem_cons_self with rfl | ⟨s, hs, rfl⟩
    · exact absurd rfl hpart
    · exact ⟨s :: names, List.forall_mem_cons.mpr ⟨hs, hnames⟩, rfl⟩

/-- The root is a step of the absolute paths. -/
theorem isAbsolute_iff_root_mem {p : Path} : p.isAbsolute = true ↔ Part.root ∈ p.parts := by
  rw [parts_eq_lead_append]
  constructor
  · intro hp
    simp [lead_absolute hp]
  · intro hroot
    by_contra hp
    rw [Bool.not_eq_true] at hp
    rcases List.mem_append.mp hroot with h | h
    · rcases lead_relative hp with hlead | hlead <;> simp [hlead] at h
    · rcases mem_steps h with h | ⟨s, -, h⟩ <;> cases h

theorem no_root_of_relative {p : Path} (hp : p.isAbsolute = false) : Part.root ∉ p.parts := by
  rw [← isAbsolute_iff_root_mem, hp]
  exact Bool.false_ne_true

/-- The steps of a relative path without a leading dot are those of its segments. -/
theorem parts_eq_steps {p : Path} (hp : p.isAbsolute = false) (hhere : Part.here ∉ p.parts) :
    p.parts = steps p.segments := by
  rw [parts_eq_lead_append] at hhere ⊢
  rcases lead_relative hp with hlead | hlead
  · rw [hlead, List.nil_append]
  · simp [hlead] at hhere

/-- **The canonical paths are those whose steps are in normal form.** -/
theorem isCanonical_iff_isNormal {p : Path} : p.IsCanonical ↔ IsNormal p.parts := by
  constructor
  · intro h
    cases hp : p.isAbsolute with
    | true =>
      have hup := h.of_absolute hp
      have hparts : p.parts = [.root] ++ steps p.segments := by
        rw [parts_eq_lead_append, lead_absolute hp]
      rw [hparts] at hup ⊢
      obtain ⟨names, hnames, hsteps⟩ := exists_names_of_no_up (fun part hpart => mem_steps hpart)
        fun hmem => hup (List.mem_append_right _ hmem)
      exact ⟨[.root], names, Or.inl rfl, hnames, by rw [hsteps]⟩
    | false =>
      obtain ⟨n, rest, hparts, hup⟩ := h.of_relative hp
      have hrest : ∀ part ∈ rest, part = .up ∨ ∃ s, IsComponent s ∧ part = .name s := by
        intro part hpart
        refine mem_steps (p := p) ?_
        rw [← parts_eq_steps hp h.no_here, hparts]
        exact List.mem_append_right _ hpart
      obtain ⟨names, hnames, rfl⟩ := exists_names_of_no_up hrest hup
      exact ⟨_, names, Or.inr ⟨n, rfl⟩, hnames, hparts⟩
  · rintro ⟨base, names, hbase, -, hparts⟩
    have hup : Part.up ∉ names.map Part.name := by simp
    constructor
    · rw [hparts]
      rcases hbase with rfl | ⟨n, rfl⟩ <;> simp
    · intro hp
      rw [isAbsolute_iff_root_mem, hparts] at hp
      rcases hbase with rfl | ⟨n, rfl⟩
      · rw [hparts]
        simp
      · simp at hp
    · intro hp
      rcases hbase with rfl | ⟨n, rfl⟩
      · refine absurd ?_ (no_root_of_relative hp)
        simp [hparts]
      · exact ⟨n, _, hparts, hup⟩

/-! ## 2. Where steps lead, from one place and from another -/

/-- Steps that begin nowhere lead to climbs and components. -/
theorem exists_climbs_reach {steps : List Part}
    (h : ∀ part ∈ steps, part = .up ∨ ∃ s, IsComponent s ∧ part = .name s) :
    ∃ (n : Nat) (names : List (List PathChar)),
      reach [] steps = List.replicate n .up ++ names.map .name := by
  obtain ⟨base, names, hbase, -, hplace⟩ := isNormal_reach isNormal_nil h
  rcases hbase with rfl | ⟨n, rfl⟩
  · have hroot : Part.root ∈ reach [] steps := by simp [hplace]
    rcases mem_reach hroot with hroot | hroot
    · cases hroot
    · rcases h _ hroot with heq | ⟨s, -, heq⟩ <;> cases heq
  · exact ⟨n, names, hplace⟩

/-- **Steps lead where their normal form leads**, from any place. -/
theorem reach_reach (place : List Part) {steps : List Part}
    (h : ∀ part ∈ steps, part = .up ∨ ∃ s, IsComponent s ∧ part = .name s) :
    reach place (reach [] steps) = reach place steps := by
  induction steps using List.reverseRecOn with
  | nil => rw [reach_nil]
  | append_singleton steps part ih =>
    have hsteps := fun q hq => h q (List.mem_append_left [part] hq)
    have ih := ih hsteps
    rw [reach_append [] steps, reach_append place steps, ← ih]
    rcases h part (List.mem_append_right _ (List.mem_singleton_self part)) with rfl | ⟨s, -, rfl⟩
    · obtain ⟨n, names, hplace⟩ := exists_climbs_reach hsteps
      rw [hplace]
      rcases List.eq_nil_or_concat names with rfl | ⟨names, s, rfl⟩
      · -- only climbs so far, so that this one is kept
        rw [List.map_nil, List.append_nil, reach_up_climbs, List.replicate_succ', reach_append]
      · -- a component to take back, on both sides
        rw [List.concat_eq_append, List.map_append, List.map_singleton, ← List.append_assoc,
          reach_up_name, reach_append place _ [Part.name s], reach_name, reach_up_name]
    · rw [reach_name, reach_append]

/-! ## 3. Normal forms of joined paths -/

theorem isNormal_normalize (p : Path) : IsNormal p.normalize.parts := by
  rw [parts_normalize]
  exact isNormal_normalizeParts p

theorem isCanonical_normalize (p : Path) : p.normalize.IsCanonical :=
  isCanonical_iff_isNormal.mpr (isNormal_normalize p)

/-- A normal form begins where the path begins. -/
theorem isAbsolute_normalize (p : Path) : p.normalize.isAbsolute = p.isAbsolute := by
  rw [Bool.eq_iff_iff]
  constructor
  · intro h
    rw [isAbsolute_iff_root_mem, parts_normalize, normalizeParts_eq_reach] at h
    rcases mem_reach h with h | h
    · cases h
    · exact isAbsolute_iff_root_mem.mpr h
  · intro h
    obtain ⟨names, -, hparts⟩ := exists_names_normalizeParts h
    rw [isAbsolute_iff_root_mem, parts_normalize, hparts]
    exact List.mem_append_left _ (List.mem_singleton_self _)

/-- **Just the canonical paths are kept.** -/
theorem normalize_samePlace_iff {p : Path} : p.normalize.SamePlace p ↔ p.IsCanonical := by
  rw [isCanonical_iff_isNormal, SamePlace, parts_normalize]
  constructor
  · intro h
    rw [← h]
    exact isNormal_normalizeParts p
  · exact normalizeParts_eq_self

/-- A name that is left again leads nowhere. -/
theorem normalize_left_again (p : Path) {s : List PathChar} (hs : IsComponent s) :
    ((p.join ⟨s⟩).join ⟨".."⟩).normalize = p.normalize := by
  have hup : (⟨".."⟩ : Path).isAbsolute = false := by decide
  have hsteps : steps (⟨".."⟩ : Path).segments = [.up] := by decide
  refine normalize_inj ?_
  rw [normalizeParts_join _ hup, hsteps, parts_join_component p hs]
  have happend := normalizeParts_append_names p.parts [s]
  rw [List.map_singleton] at happend
  rw [happend, reach_up_name]

/-- **The normal form of a joined path depends on those of its parts only.** -/
theorem normalize_join (p q : Path) :
    (p.join q).normalize = (p.normalize.join q.normalize).normalize := by
  cases hq : q.isAbsolute with
  | true =>
    have hnormal : q.normalize.isAbsolute = true := (isAbsolute_normalize q).trans hq
    rw [join_absolute p hq, join_absolute _ hnormal, normalize_normalize]
  | false =>
    have hnormal : q.normalize.isAbsolute = false := (isAbsolute_normalize q).trans hq
    have hsteps : steps q.normalize.segments = reach [] (steps q.segments) := by
      rw [← parts_eq_steps hnormal (isCanonical_normalize q).no_here, parts_normalize,
        normalizeParts_eq_reach_lead, hq]
      rfl
    refine normalize_inj ?_
    rw [normalizeParts_join p hq, normalizeParts_join _ hnormal, hsteps,
      reach_reach _ fun part h => mem_steps h, parts_normalize,
      normalizeParts_eq_self (isNormal_normalizeParts p)]

/-! ## 4. Paths that are read from a root -/

section Respelled

variable {r r' : Resolver} (hroot : r.root.normalize.SamePlace r'.root.normalize)

include hroot

/-- **A path that is read from a root may be spelled in any way**, and so may the root. -/
theorem Resolver.anchor_respelled {p p' : Path} (h : p.normalize.SamePlace p'.normalize) :
    r.anchor p = r'.anchor p' := by
  rw [anchor, anchor, normalize_join, normalize_join r'.root, normalize_eq_of_samePlace hroot,
    normalize_eq_of_samePlace h]

theorem Resolver.specifier_respelled {source source' target target' : Path}
    (hsource : source.normalize.SamePlace source'.normalize)
    (htarget : target.normalize.SamePlace target'.normalize) :
    r.specifier source target = r'.specifier source' target' := by
  rw [Resolver.specifier, Resolver.specifier, anchor_respelled hroot hsource,
    anchor_respelled hroot htarget]

end Respelled

/-- **Normal forms are canonical, and no spelling matters behind them.**  A normal form has no dots
but leading climbs and begins where the path begins; it is kept when it is put into normal form
again, like every canonical path, while a name that is left again is dropped.  The normal form of a
joined path depends on those of its parts only, and so does what is read from a root: the anchored
paths and the specifiers between them. -/
theorem normal_form_of_join :
    (∀ p : Path, p.normalize.IsCanonical ∧ p.normalize.isAbsolute = p.isAbsolute ∧
      p.normalize.normalize = p.normalize ∧ (p.normalize.SamePlace p ↔ p.IsCanonical) ∧
      ∀ s, IsComponent s → ((p.join ⟨s⟩).join ⟨".."⟩).normalize = p.normalize) ∧
    (∀ p q : Path, (p.join q).normalize = (p.normalize.join q.normalize).normalize) ∧
    ∀ r r' : Resolver, r.root.normalize.SamePlace r'.root.normalize →
      (∀ p p' : Path, p.normalize.SamePlace p'.normalize → r.anchor p = r'.anchor p') ∧
      ∀ source source' target target' : Path, source.normalize.SamePlace source'.normalize →
        target.normalize.SamePlace target'.normalize →
        r.specifier source target = r'.specifier source' target' := by
  refine ⟨fun p => ?_, normalize_join, fun r r' hroot => ⟨?_, ?_⟩⟩
  · exact ⟨isCanonical_normalize p, isAbsolute_normalize p, normalize_normalize p,
      normalize_samePlace_iff, fun s hs => normalize_left_again p hs⟩
  · intro p p' h
    exact Resolver.anchor_respelled hroot h
  · intro source source' target target' hsource htarget
    exact Resolver.specifier_respelled hroot hsource htarget

/-- A root with a directory that is left again, and a target above the root. -/
theorem normal_form_of_join_detours :
    let r : Resolver := ⟨⟨"/app/./src/.."⟩⟩
    let r' : Resolver := ⟨⟨"//app/"⟩⟩
    let source : Path := ⟨"blog/./a.ts"⟩
    let source' : Path := ⟨"blog/x/../a.ts"⟩
    let target : Path := ⟨"x/../../lib//b.ts"⟩
    let target' : Path := ⟨"./../lib/b.ts"⟩
    IsComponent "src" ∧ r.root.normalize.SamePlace r'.root.normalize ∧
      source.normalize.SamePlace source'.normalize ∧
      target.normalize.SamePlace target'.normalize ∧
      ((r'.root.join ⟨"src"⟩).join ⟨".."⟩).normalize = ⟨"/app"⟩ ∧
      r.anchor source = r'.anchor source' ∧
      r.specifier source target = r'.specifier source' target' ∧
      r'.specifier source' target' = "../../lib/b" := by
  intro r r' source source' target target'
  have hsrc : IsComponent "src" := ⟨by decide, by decide, by decide, by decide⟩
  have hroot : r.root.normalize.SamePlace r'.root.normalize := by decide +kernel
  have hsource : source.normalize.SamePlace source'.normalize := by decide +kernel
  have htarget : target.normalize.SamePlace target'.normalize := by decide +kernel
  have happ : r'.root.normalize = ⟨"/app"⟩ := by decide +kernel
  obtain ⟨hforms, -, hresolvers⟩ := normal_form_of_join
  obtain ⟨-, -, -, -, hleft⟩ := hforms r'.root
  obtain ⟨hanchor, hspecifier⟩ := hresolvers r r' hroot
  exact ⟨hsrc, hroot, hsource, htarget, (hleft "src" hsrc).trans happ,
    hanchor source source' hsource,
    hspecifier source source' target target' hsource htarget, by decide +kernel⟩

end SchemaClass.Path
