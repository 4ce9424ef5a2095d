import Mathlib.Data.List.Induction
import SchemaClass.Path.Specifier
import SchemaClass.Proofs.Path.Reading
/-!
# Normal forms of paths

Steps lead from one place to another (`reach`), and a normal form is a place: the root or a number
of climbs, then components (`IsNormal`).  Steps lead from normal forms to normal forms, a normal
form is read back from its text, and so the text of `normalize` says no more and no less than the
steps it was computed from.

* `mem_reach`: what there is among the steps of a place that is reached;
* `isNormal_reach`: one step and then all of them preserve normal forms;
* `reach_climb`: as many climbs as there are components lead back;
* `normalizeParts_join`: the normal form of a joined path;
* `parts_normalize`: reading the text of a normal form;
* `parts_directory`: the directory of a file.
-/

namespace SchemaClass.Path

open PathChar (slash dot)

/-! ## 1. Where steps lead -/

/-- Where steps lead from a place. -/
def reach (place steps : List Part) : List Part := (steps.foldl take place.reverse).reverse

@[simp] theorem reach_nil (place : List Part) : reach place [] = place := by
  rw [reach, List.foldl_nil, List.reverse_reverse]

theorem reach_append (place ps qs : List Part) :
    reach place (ps ++ qs) = reach (reach place ps) qs := by
  rw [reach, reach, reach, List.foldl_append, List.reverse_reverse]

theorem reach_cons (place : List Part) (part : Part) (ps : List Part) :
    reach place (part :: ps) = reach (reach place [part]) ps := reach_append place [part] ps

theorem normalizeParts_eq_reach (ps : List Part) : normalizeParts ps = reach [] ps := rfl

@[simp] theorem reach_name (place : List Part) (s : List PathChar) :
    reach place [.name s] = place ++ [.name s] := by
  simp [reach]

@[simp] theorem reach_up_name (place : List Part) (s : List PathChar) :
    reach (place ++ [.name s]) [.up] = place := by
  simp [reach]

/-- Components lead to themselves, behind the place. -/
theorem reach_names (place : List Part) : ∀ (names : List (List PathChar)),
    reach place (names.map .name) = place ++ names.map .name
  | [] => by simp
  | s :: names => by
    rw [List.map_cons, reach_cons, reach_name, reach_names (place ++ [Part.name s]) names,
      List.append_assoc, List.singleton_append]

/-- **As many climbs as there are components lead back.** -/
theorem reach_climb (place : List Part) (names : List (List PathChar)) :
    reach (place ++ names.map .name) (List.replicate names.length .up) = place := by
  induction names using List.reverseRecOn with
  | nil => simp
  | append_singleton names s ih =>
    rw [List.length_append, List.length_singleton, List.replicate_succ, reach_cons,
      List.map_append, List.map_singleton, ← List.append_assoc, reach_up_name, ih]

/-- Where there is nothing to take back, climbs are kept. -/
theorem reach_up_climbs (n : Nat) :
    reach (List.replicate n .up) [.up] = List.replicate (n + 1) .up := by
  have htake : take (List.replicate n .up) .up = List.replicate (n + 1) .up := by
    cases n <;> rfl
  rw [reach, List.reverse_replicate, List.foldl_cons, List.foldl_nil, htake,
    List.reverse_replicate]

/-- A step adds nothing but itself. -/
theorem mem_take {out : List Part} {part q : Part} (h : q ∈ take out part) :
    q ∈ out ∨ q = part := by
  unfold take at h
  split at h
  · exact Or.inl h
  · exact Or.inl (List.mem_cons_of_mem _ h)
  · exact Or.inl h
  · exact (List.mem_cons.mp h).symm

/-- **What there is among the steps of a place was there before, or is one of the steps that lead
there.** -/
theorem mem_reach {place steps : List Part} {q : Part} (h : q ∈ reach place steps) :
    q ∈ place ∨ q ∈ steps := by
  induction steps using List.reverseRecOn with
  | nil =>
    rw [reach_nil] at h
    exact Or.inl h
  | append_singleton steps part ih =>
    have hstep : q ∈ take (reach place steps).reverse part := by
      rw [reach_append] at h
      exact List.mem_reverse.mp h
    rcases mem_take hstep with hq | rfl
    · exact (ih (List.mem_reverse.mp hq)).imp_right (List.mem_append_left _)
    · exact Or.inr (List.mem_append_right _ (List.mem_singleton_self q))

/-! ## 2. Normal forms -/

/-- The root, or a number of climbs. -/
def IsBase (ps : List Part) : Prop := ps = [.root] ∨ ∃ n, ps = List.replicate n .up

/-- Steps that cannot be said more plainly: a base and components. -/
def IsNormal (ps : List Part) : Prop :=
  ∃ (base : List Part) (names : List (List PathChar)),
    IsBase base ∧ (∀ s ∈ names, IsComponent s) ∧ ps = base ++ names.map .name

theorem isNormal_nil : IsNormal [] :=
  ⟨[], [], Or.inr ⟨0, rfl⟩, fun _ h => absurd h List.not_mem_nil, rfl⟩

theorem isNormal_root : IsNormal [.root] :=
  ⟨[.root], [], Or.inl rfl, fun _ h => absurd h List.not_mem_nil, rfl⟩

theorem IsNormal.append_names {ps : List Part} (h : IsNormal ps) {names : List (List PathChar)}
    (hnames : ∀ s ∈ names, IsComponent s) : IsNormal (ps ++ names.map .name) := by
  obtain ⟨base, first, hbase, hfirst, rfl⟩ := h
  refine ⟨base, first ++ names, hbase, ?_, by rw [List.map_append, List.append_assoc]⟩
  intro s hs
  rcases List.mem_append.mp hs with hs | hs
  · exact hfirst s hs
  · exact hnames s hs

/-- Climbing from a base stays at the root or is one more climb. -/
theorem isBase_reach_up {base : List Part} (h : IsBase base) : IsBase (reach base [.up]) := by
  rcases h with rfl | ⟨n, rfl⟩
  · exact Or.inl rfl
  · exact Or.inr ⟨n + 1, reach_up_climbs n⟩

/-- One step leads from a normal form to a normal form. -/
theorem isNormal_step {place : List Part} (h : IsNormal place) {part : Part}
    (hpart : part = .up ∨ ∃ s, IsComponent s ∧ part = .name s) :
    IsNormal (reach place [part]) := by
  rcases hpart with rfl | ⟨s, hs, rfl⟩
  · obtain ⟨base, names, hbase, hnames, rfl⟩ := h
    rcases List.eq_nil_or_concat names with rfl | ⟨names, s, rfl⟩
    · rw [List.map_nil, List.append_nil]
      exact ⟨_, [], isBase_reach_up hbase, hnames, (List.append_nil _).symm⟩
    · rw [List.concat_eq_append] at hnames ⊢
      rw [List.map_append, List.map_singleton, ← List.append_assoc, reach_up_name]
      exact ⟨base, names, hbase, fun t ht => hnames t (List.mem_append_left _ ht), rfl⟩
  · rw [reach_name]
    exact h.append_names (fun t ht => List.mem_singleton.mp ht ▸ hs : ∀ t ∈ [s], IsComponent t)

/-- **Steps lead from normal forms to normal forms.** -/
theorem isNormal_reach : ∀ {steps place : List Part}, IsNormal place →
    (∀ part ∈ steps, part = .up ∨ ∃ s, IsComponent s ∧ part = .name s) →
    IsNormal (reach place steps)
  | [], _, h, _ => by
    rw [reach_nil]
    exact h
  | part :: steps, place, h, hsteps => by
    rw [reach_cons]
    exact isNormal_reach (isNormal_step h (hsteps part List.mem_cons_self))
      fun q hq => hsteps q (List.mem_cons_of_mem _ hq)

/-- The steps of a path that are behind the lead, from where the lead leads. -/
theorem normalizeParts_eq_reach_lead (p : Path) : normalizeParts p.parts
    = reach (if p.isAbsolute then [.root] else []) (steps p.segments) := by
  rw [parts_eq_lead_append, normalizeParts_eq_reach, reach_append]
  cases hp : p.isAbsolute with
  | true =>
    rw [lead_absolute hp]
    rfl
  | false =>
    rcases lead_relative hp with h | h
    · rw [h]
      rfl
    · rw [h]
      rfl

theorem isNormal_normalizeParts (p : Path) : IsNormal (normalizeParts p.parts) := by
  rw [normalizeParts_eq_reach_lead]
  refine isNormal_reach ?_ fun part h => mem_steps h
  split
  · exact isNormal_root
  · exact isNormal_nil

/-- A normal form leads to itself. -/
theorem normalizeParts_eq_self {ps : List Part} (h : IsNormal ps) : normalizeParts ps = ps := by
  obtain ⟨base, names, hbase, -, rfl⟩ := h
  have hself : reach [] base = base := by
    rcases hbase with rfl | ⟨n, rfl⟩
    · rfl
    · induction n with
      | zero => rfl
      | succ n ih =>
        rw [List.replicate_succ', reach_append, ih, reach_up_climbs, ← List.replicate_succ']
  rw [normalizeParts_eq_reach, reach_append, hself, reach_names]

/-- A component behind a path is behind its normal form. -/
theorem normalizeParts_append_names (ps : List Part) (names : List (List PathChar)) :
    normalizeParts (ps ++ names.map .name) = normalizeParts ps ++ names.map .name := by
  rw [normalizeParts_eq_reach, reach_append, reach_names, ← normalizeParts_eq_reach]

/-- **The normal form of a joined path**: the steps of what is joined lead there from the normal
form of the directory. -/
theorem normalizeParts_join (p : Path) {q : Path} (hq : q.isAbsolute = false) :
    normalizeParts (p.join q).parts = reach (normalizeParts p.parts) (steps q.segments) := by
  by_cases hp : p.chars = []
  · have hempty : p = ⟨[]⟩ := ext_chars hp
    rw [hempty, empty_join, normalizeParts_eq_reach_lead, hq]
    rfl
  · rw [parts_join hp hq, normalizeParts_eq_reach, reach_append, ← normalizeParts_eq_reach]

/-! ## 3. Reading a normal form -/

theorem ofParts_append (ps : List Part) (part : Part) :
    ofParts (ps ++ [part]) = (ofParts ps).join ⟨part.chars⟩ := by
  rw [ofParts, List.foldl_append]
  rfl

theorem parts_climbs : ∀ (n : Nat),
    (ofParts (List.replicate n .up)).parts = List.replicate n .up
  | 0 => rfl
  | n + 1 => by
    have ih := parts_climbs n
    rw [List.replicate_succ', ofParts_append]
    by_cases htext : (ofParts (List.replicate n .up)).chars = []
    · have hempty : ofParts (List.replicate n .up) = ⟨[]⟩ := ext_chars htext
      rw [hempty] at ih ⊢
      rw [← ih]
      decide
    · rw [parts_join htext (by decide), ih]
      rfl

/-- **A normal form is read back from its text.** -/
theorem parts_ofParts {ps : List Part} (h : IsNormal ps) : (ofParts ps).parts = ps := by
  obtain ⟨base, names, hbase, hnames, rfl⟩ := h
  induction names using List.reverseRecOn with
  | nil =>
    rw [List.map_nil, List.append_nil]
    rcases hbase with rfl | ⟨n, rfl⟩
    · decide
    · exact parts_climbs n
  | append_singleton names s ih =>
    have hs : IsComponent s := hnames s (List.mem_append_right _ (List.mem_singleton_self s))
    rw [List.map_append, List.map_singleton, ← List.append_assoc, ofParts_append, Part.chars,
      parts_join_component _ hs, ih fun t ht => hnames t (List.mem_append_left _ ht)]

/-- **The text of a normal form says what it was computed from.** -/
theorem parts_normalize (p : Path) : p.normalize.parts = normalizeParts p.parts :=
  parts_ofParts (isNormal_normalizeParts p)

/-- Normal forms that are written alike come from the same place. -/
theorem normalize_inj {p q : Path} (h : normalizeParts p.parts = normalizeParts q.parts) :
    p.normalize = q.normalize := by
  rw [normalize, normalize, h]

/-- Normal forms are written in one way. -/
theorem normalize_eq_of_samePlace {p q : Path} (h : p.normalize.SamePlace q.normalize) :
    p.normalize = q.normalize := by
  rw [SamePlace, parts_normalize, parts_normalize] at h
  exact normalize_inj h

theorem normalize_normalize (p : Path) : p.normalize.normalize = p.normalize := by
  refine normalize_inj ?_
  rw [parts_normalize, normalizeParts_eq_self (isNormal_normalizeParts p)]

/-! ## 4. Directories -/

theorem steps_dropIdleEnd (ss : List (List PathChar)) : steps (dropIdleEnd ss) = steps ss := by
  have hidle : steps (ss.reverse.takeWhile isIdle).reverse = [] := by
    refine List.filterMap_eq_nil_iff.mpr fun cs hcs => ?_
    have hcs' : isIdle cs = true :=
      List.all_eq_true.mp List.all_takeWhile cs (List.mem_reverse.mp hcs)
    rw [Part.ofSegment?, hcs', if_pos rfl]
  have hsplit : ss = dropIdleEnd ss ++ (ss.reverse.takeWhile isIdle).reverse := by
    rw [dropIdleEnd, ← List.reverse_append, List.takeWhile_append_dropWhile, List.reverse_reverse]
  conv => rhs; rw [hsplit, steps_append, hidle, List.append_nil]

theorem mem_of_mem_dropIdleEnd {ss : List (List PathChar)} {cs : List PathChar}
    (h : cs ∈ dropIdleEnd ss) : cs ∈ ss :=
  List.mem_reverse.mp ((List.dropWhile_sublist _).subset (List.mem_reverse.mp h))

/-- A segment that is not idle is one step. -/
theorem steps_singleton {cs : List PathChar} (h : isIdle cs = false) :
    ∃ part, steps [cs] = [part] := by
  have hsome : ∃ part, Part.ofSegment? cs = some part := by
    rw [Part.ofSegment?, h, if_neg Bool.false_ne_true]
    split
    · exact ⟨_, rfl⟩
    · exact ⟨_, rfl⟩
  obtain ⟨part, hpart⟩ := hsome
  exact ⟨part, by rw [steps, List.filterMap_cons, hpart]; rfl⟩

/-- The steps of a path that is put together from a first segment and others behind it. -/
theorem parts_ofHead {head : List PathChar} {tail : List (List PathChar)} (hhead : slash ∉ head)
    (htail : ∀ cs ∈ tail, slash ∉ cs) {behind : List (List PathChar)} (hbehind : behind ≠ []) :
    (ofHead head (dropIdleEnd tail)).parts
      = leadOf (head :: behind) ++ steps (head :: tail) := by
  have hsteps : steps (head :: dropIdleEnd tail) = steps (head :: tail) := by
    rw [steps_cons, steps_dropIdleEnd, ← steps_cons]
  have hslash : ∀ cs ∈ head :: dropIdleEnd tail, slash ∉ cs := by
    intro cs hcs
    rcases List.mem_cons.mp hcs with rfl | hcs
    · exact hhead
    · exact htail cs (mem_of_mem_dropIdleEnd hcs)
  rw [← hsteps]
  by_cases hnil : dropIdleEnd tail = []
  · rw [hnil] at hslash ⊢
    by_cases hempty : head = []
    · obtain ⟨b, behind, rfl⟩ := List.exists_cons_of_ne_nil hbehind
      rw [hempty]
      rfl
    · rw [ofHead, List.isEmpty_nil, if_pos rfl, if_neg (by simpa using hempty), parts_eq_read,
        segments_ofSegments (List.cons_ne_nil _ _) hslash, read,
        leadOf_cons_of_ne_nil hempty behind]
  · rw [ofHead, if_neg (by simpa using hnil), parts_eq_read,
      segments_ofSegments (List.cons_ne_nil _ _) hslash, read, leadOf_cons head hbehind hnil]

/-- The lead and the first segment of a path that has any text are one step. -/
theorem first_step {head : List PathChar} {tail : List (List PathChar)} (h : head :: tail ≠ [[]]) :
    ∃ part, leadOf (head :: tail) ++ steps [head] = [part] := by
  by_cases hempty : head = []
  · have htail : tail ≠ [] := by
      rintro rfl
      exact h (by rw [hempty])
    obtain ⟨s, ss, rfl⟩ := List.exists_cons_of_ne_nil htail
    rw [hempty]
    exact ⟨.root, rfl⟩
  · by_cases hdot : head = [dot]
    · rw [hdot]
      exact ⟨.here, rfl⟩
    · have hidle : isIdle head = false := by simp [isIdle, hempty, hdot]
      have hlead : leadOf (head :: tail) = [] := by
        unfold leadOf
        split <;> simp_all
      rw [hlead]
      exact steps_singleton hidle

/-- There is at most one step to the first segment, its lead included. -/
theorem dropLast_lead_first (head : List PathChar) (tail : List (List PathChar)) :
    (leadOf (head :: tail) ++ steps [head]).dropLast = [] := by
  by_cases h : head :: tail = [[]]
  · cases h
    rfl
  · obtain ⟨part, hpart⟩ := first_step h
    rw [hpart]
    rfl

/-- **The path above has all steps but the last**, and none if there is no path above. -/
theorem parts_parent (p : Path) : (p.parent?.getD ⟨[]⟩).parts = p.parts.dropLast := by
  obtain ⟨head, tail, hp⟩ := List.exists_cons_of_ne_nil (segments_ne_nil p)
  have hhead : slash ∉ head := no_slash_of_mem_segments (hp ▸ List.mem_cons_self)
  have htail : ∀ cs ∈ tail, slash ∉ cs := fun cs hcs =>
    no_slash_of_mem_segments (hp ▸ List.mem_cons_of_mem _ hcs)
  rw [parts_eq_read p, hp, parent?, hp]
  dsimp only
  split
  · next last above hlast =>
    have hidle : isIdle last = false := by
      have := List.head?_dropWhile_not isIdle tail.reverse
      rwa [hlast] at this
    obtain ⟨part, hpart⟩ := steps_singleton hidle
    have hend : dropIdleEnd tail = above.reverse ++ [last] := by
      rw [dropIdleEnd, hlast, List.reverse_cons]
    have htailsteps : steps tail = steps above.reverse ++ [part] := by
      rw [← steps_dropIdleEnd, hend, steps_append, hpart]
    have hne : tail ≠ [] := by
      rintro rfl
      cases hlast
    have habove : ∀ cs ∈ above.reverse, slash ∉ cs := by
      intro cs hcs
      have hmem : cs ∈ dropIdleEnd tail := hend ▸ List.mem_append_left _ hcs
      exact htail cs (mem_of_mem_dropIdleEnd hmem)
    rw [Option.getD_some, parts_ofHead hhead habove hne, read, steps_cons head tail, htailsteps,
      steps_cons head above.reverse, ← List.append_assoc (steps [head]),
      ← List.append_assoc (leadOf _) _ [part], List.dropLast_concat]
  · next hidle =>
    have htailsteps : steps tail = [] := by
      rw [← steps_dropIdleEnd, dropIdleEnd, hidle]
      rfl
    rw [read, steps_cons, htailsteps, List.append_nil, dropLast_lead_first]
    split <;> rfl

theorem parts_directory (file : Path) :
    file.directory.parts = normalizeParts file.parts.dropLast := by
  rw [directory, parts_normalize, parts_parent]


end SchemaClass.Path
