import SchemaClass.Proofs.Path.Normal
/-!
# From a directory on

What is joined to a directory can be read off again: the path from the directory on is what was
joined, down to the spelling, provided that it has no segment that is no step.  The directory may be
spelled in any way, with slashes at its end or dots inside.

* `dropWhile_behindSteps`: the steps of the directory are passed over, and what separates them;
* `relativeTo?_join`: the path from the directory on.
-/

namespace SchemaClass.Path

open PathChar (slash)

/-! ## 1. Passing over a directory -/

theorem steps_of_isIdle {cs : List PathChar} (h : isIdle cs = true) : steps [cs] = [] := by
  rw [steps, List.filterMap_cons, Part.ofSegment?, h, if_pos rfl]
  rfl

/-- **The steps of a directory are passed over**, and then what separates it from the rest. -/
theorem dropWhile_behindSteps (ss rest : List (List PathChar)) :
    (behindSteps (steps ss).length (ss ++ rest)).dropWhile isIdle = rest.dropWhile isIdle := by
  induction ss with
  | nil => rw [steps, List.filterMap_nil, List.length_nil, List.nil_append, behindSteps]
  | cons s ss ih =>
    rw [steps_cons, List.length_append, List.cons_append]
    by_cases hidle : isIdle s = true
    · rw [steps_of_isIdle hidle, List.length_nil, Nat.zero_add, ← ih]
      cases (steps ss).length with
      | zero => rw [behindSteps, behindSteps, List.dropWhile_cons_of_pos hidle]
      | succ n => rw [behindSteps, if_pos hidle]
    · obtain ⟨part, hpart⟩ := steps_singleton (Bool.eq_false_iff.mpr hidle)
      rw [hpart, List.length_singleton, Nat.add_comm, behindSteps, if_neg hidle, ih]

/-- The first segment is one step, if the path has any text. -/
theorem length_read {head : List PathChar} {tail : List (List PathChar)} (h : head :: tail ≠ [[]]) :
    (read (head :: tail)).length = (steps tail).length + 1 := by
  obtain ⟨part, hpart⟩ := first_step h
  rw [read, steps_cons, ← List.append_assoc, hpart, List.length_append, List.length_singleton,
    Nat.add_comm]

/-! ## 2. What is left -/

theorem dropWhile_isIdle_eq_self {ss : List (List PathChar)} (h : ∀ cs ∈ ss, isIdle cs = false) :
    ss.dropWhile isIdle = ss := by
  cases ss with
  | nil => rfl
  | cons s ss =>
    have hs : ¬ isIdle s = true := by
      rw [h s List.mem_cons_self]
      exact Bool.false_ne_true
    exact List.dropWhile_cons_of_neg hs

theorem dropIdleEnd_eq_self {ss : List (List PathChar)} (h : ∀ cs ∈ ss, isIdle cs = false) :
    dropIdleEnd ss = ss := by
  rw [dropIdleEnd, dropWhile_isIdle_eq_self fun cs hcs => h cs (List.mem_reverse.mp hcs),
    List.reverse_reverse]

theorem ofSegments_segments (p : Path) : ofSegments p.segments = p := by
  refine ext_chars ?_
  rw [ofSegments, segments]
  exact List.intercalate_splitOn slash

/-- Nothing is passed over if there is no directory. -/
theorem relativeTo?_empty {p : Path} (h : ∀ cs ∈ p.segments, isIdle cs = false) :
    p.relativeTo? ⟨[]⟩ = some p := by
  obtain ⟨head, tail, hp⟩ := List.exists_cons_of_ne_nil (segments_ne_nil p)
  have hparts : (⟨[]⟩ : Path).parts = [] := rfl
  have htext : ¬ p.chars.isEmpty = true := by
    intro hempty
    have hnil : p.segments = [[]] := by
      rw [segments, List.isEmpty_iff.mp hempty]
      rfl
    exact Bool.false_ne_true ((h [] (hnil ▸ List.mem_cons_self)).symm.trans rfl)
  rw [hp] at h
  have htail : dropIdleEnd tail = tail :=
    dropIdleEnd_eq_self fun cs hcs => h cs (List.mem_cons_of_mem head hcs)
  have hwhole : ofHead head tail = p := by
    rw [← ofSegments_segments p, hp, ofHead]
    split
    · next hnil =>
      rw [List.isEmpty_iff.mp hnil]
      have hhead : ¬ head.isEmpty = true := by
        intro hempty
        have hfalse := h head List.mem_cons_self
        rw [List.isEmpty_iff.mp hempty] at hfalse
        cases hfalse
      rw [if_neg hhead]
    · rfl
  rw [relativeTo?, hparts, hp]
  simp [htext, htail, hwhole]

/-- **From a directory on**, a path that has been joined to it is there again. -/
theorem relativeTo?_join (p : Path) {q : Path} (hq : q.isAbsolute = false)
    (h : ∀ cs ∈ q.segments, isIdle cs = false) : (p.join q).relativeTo? p = some q := by
  by_cases hp : p.chars = []
  · have hempty : p = ⟨[]⟩ := ext_chars hp
    rw [hempty, empty_join]
    exact relativeTo?_empty h
  · obtain ⟨ss, hss, hjoin, hsegments⟩ := segments_join hp hq
    obtain ⟨head, tail, rfl⟩ := List.exists_cons_of_ne_nil hss
    have hsteps : p.parts.length = (steps tail).length + 1 := by
      rw [parts_eq_read]
      rcases hsegments with hslash | ⟨hplain, hempty⟩
      · rw [hslash, List.cons_append, length_read (by simp), steps_append, steps_empty,
          List.append_nil]
      · rw [hplain, length_read hempty]
    have hprefix : p.parts.isPrefixOf (p.join q).parts = true := by
      rw [List.isPrefixOf_iff_prefix, parts_join hp hq]
      exact List.prefix_append _ _
    rw [relativeTo?, if_pos hprefix, hjoin, hsteps, List.cons_append]
    dsimp only
    rw [dropWhile_behindSteps, dropWhile_isIdle_eq_self h, dropIdleEnd_eq_self h,
      ofSegments_segments]

/-- A component in a directory that is a component itself. -/
theorem segments_join_component {s t : List PathChar} (hs : IsComponent s) (ht : IsComponent t) :
    ((⟨s⟩ : Path).join ⟨t⟩).segments = [s, t] := by
  obtain ⟨ss, hss, hjoin, hsegments⟩ := segments_join hs.chars_ne_nil (isAbsolute_component ht)
  rw [segments_component hs] at hsegments
  rw [hjoin, segments_component ht]
  rcases hsegments with hslash | ⟨hplain, -⟩
  · obtain ⟨cs, rest, rfl⟩ := List.exists_cons_of_ne_nil hss
    simp at hslash
  · rw [← hplain]
    rfl

end SchemaClass.Path
