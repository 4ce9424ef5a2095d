import SchemaClass.Path.Basic
import SchemaClass.Proofs.Text.Split
/-!
# Reading paths that have been joined

The steps of a path are a lead and what its segments stand for.  Joining puts one slash between two
texts, which separates the segments of both, so that the steps of a joined path are those of its
parts.

* `join_assoc`: joining is associative, down to the spelling;
* `segments_join`, `parts_join`: the segments and the steps of a joined path;
* `parts_join_component`: one more component is one more step, whatever the path;
* `parts_eq_lead_append`: every path is a lead, climbs and components.
-/

namespace SchemaClass.Path

open PathChar (slash dot)

/-! ## 1. Components -/

/-- A name of a file in a directory. -/
structure IsComponent (s : List PathChar) : Prop where
  ne_empty : s ≠ []
  ne_dot : s ≠ [dot]
  ne_dots : s ≠ [dot, dot]
  no_slash : slash ∉ s

theorem IsComponent.chars_ne_nil {s : List PathChar} (h : IsComponent s) :
    (⟨s⟩ : Path).chars ≠ [] := h.ne_empty

/-- A text that can name a file in a directory. -/
theorem isComponent_ofText {s : String} (hempty : s ≠ "") (hdot : s ≠ ".") (hdots : s ≠ "..")
    (hslash : '/' ∉ s.toList) : IsComponent s :=
  ⟨fun h => hempty (PathChar.ofText_inj.mp h), fun h => hdot (PathChar.ofText_inj.mp h),
    fun h => hdots (PathChar.ofText_inj.mp h), mt PathChar.char_mem_ofText.mp hslash⟩

/-- What is left of segments when those that are no step are dropped. -/
def steps (segments : List (List PathChar)) : List Part := segments.filterMap Part.ofSegment?

@[simp] theorem steps_append (ss ts : List (List PathChar)) :
    steps (ss ++ ts) = steps ss ++ steps ts := List.filterMap_append

theorem steps_cons (s : List PathChar) (ss : List (List PathChar)) :
    steps (s :: ss) = steps [s] ++ steps ss := steps_append [s] ss

theorem isIdle_component {s : List PathChar} (h : IsComponent s) : isIdle s = false := by
  simp only [isIdle, Bool.or_eq_false_iff, beq_eq_false_iff_ne]
  exact ⟨h.ne_empty, h.ne_dot⟩

theorem ofSegment?_component {s : List PathChar} (h : IsComponent s) :
    Part.ofSegment? s = some (.name s) := by
  rw [Part.ofSegment?, isIdle_component h, if_neg Bool.false_ne_true, if_neg h.ne_dots]

theorem steps_component {s : List PathChar} (h : IsComponent s) : steps [s] = [.name s] := by
  rw [steps, List.filterMap_cons, ofSegment?_component h]
  rfl

/-- A step is up or to a component, if the segment has no slash. -/
theorem ofSegment?_eq_some {cs : List PathChar} {part : Part} (hslash : slash ∉ cs)
    (h : Part.ofSegment? cs = some part) :
    part = .up ∨ ∃ s, IsComponent s ∧ part = .name s := by
  rw [Part.ofSegment?] at h
  split at h
  · cases h
  · next hidle =>
    simp only [isIdle, Bool.or_eq_true, beq_iff_eq, not_or] at hidle
    split at h
    · cases h
      exact Or.inl rfl
    · next hdots =>
      cases h
      exact Or.inr ⟨cs, ⟨hidle.1, hidle.2, hdots, hslash⟩, rfl⟩

/-! ## 2. Segments -/

theorem segments_ne_nil (p : Path) : p.segments ≠ [] := List.splitOn_ne_nil _ _

theorem no_slash_of_mem_segments {p : Path} {cs : List PathChar} (h : cs ∈ p.segments) :
    slash ∉ cs := by
  rw [segments, List.splitOn_eq_splitOnP] at h
  intro hslash
  have hfalse := (Text.mem_of_mem_splitOnP h slash hslash).2
  exact Bool.false_ne_true (hfalse.symm.trans (beq_self_eq_true slash))

/-- A slash separates the segments of what stands on its two sides. -/
theorem splitOn_slash (before behind : List PathChar) :
    (before ++ slash :: behind).splitOn slash = before.splitOn slash ++ behind.splitOn slash :=
  List.splitOn_append_cons_self before behind

theorem segments_component {s : List PathChar} (h : IsComponent s) :
    (⟨s⟩ : Path).segments = [s] := List.splitOn_eq_singleton h.no_slash

theorem segments_ofSegments {ss : List (List PathChar)} (hss : ss ≠ [])
    (h : ∀ cs ∈ ss, slash ∉ cs) : (ofSegments ss).segments = ss := by
  exact List.splitOn_intercalate slash h hss

/-- An absolute path begins with an empty segment and has another. -/
theorem isAbsolute_iff {p : Path} :
    p.isAbsolute = true ↔ ∃ s ss, p.segments = [] :: s :: ss := by
  rw [isAbsolute, segments]
  cases p.chars with
  | nil => simp
  | cons c cs =>
    obtain ⟨s, ss, hsplit⟩ := List.exists_cons_of_ne_nil (List.splitOn_ne_nil slash cs)
    by_cases hc : c = slash
    · rw [hc, List.splitOn_cons_eq_if_modifyHead, hsplit]
      simp
    · rw [List.splitOn_cons_eq_if_modifyHead, hsplit]
      simp [hc]

/-! ## 3. The reading of segments -/

/-- The lead of a path of these segments. -/
def leadOf : List (List PathChar) → List Part
  | [] :: _ :: _ => [.root]
  | [dot] :: _ => [.here]
  | _ => []

/-- The steps of a path of these segments, its lead included. -/
def read (ss : List (List PathChar)) : List Part := leadOf ss ++ steps ss

theorem lead_eq_leadOf (p : Path) : p.lead = leadOf p.segments := by
  rw [lead]
  cases habs : p.isAbsolute with
  | true =>
    obtain ⟨s, ss, hp⟩ := isAbsolute_iff.mp habs
    rw [hp, if_pos rfl, leadOf]
  | false =>
    have hrel : ¬ ∃ s ss, p.segments = [] :: s :: ss := by
      rw [← isAbsolute_iff, habs]
      exact Bool.false_ne_true
    rw [if_neg Bool.false_ne_true]
    generalize p.segments = ss at hrel ⊢
    match ss, hrel with
    | [], _ => rfl
    | s :: ss, hrel =>
      by_cases hdot : s = [dot]
      · rw [hdot, List.head?_cons, if_pos rfl]
        rfl
      · rw [List.head?_cons, if_neg (by simpa using hdot)]
        unfold leadOf
        split <;> simp_all

theorem parts_eq_read (p : Path) : p.parts = read p.segments := by
  rw [parts, lead_eq_leadOf, read, steps]

/-- Of what stands behind the first segment, only whether there is anything matters. -/
theorem leadOf_cons (s : List PathChar) {ss ts : List (List PathChar)} (hss : ss ≠ [])
    (hts : ts ≠ []) : leadOf (s :: ss) = leadOf (s :: ts) := by
  obtain ⟨a, ss, rfl⟩ := List.exists_cons_of_ne_nil hss
  obtain ⟨b, ts, rfl⟩ := List.exists_cons_of_ne_nil hts
  unfold leadOf
  split <;> simp_all

/-- Behind a segment with a text, nothing matters. -/
theorem leadOf_cons_of_ne_nil {s : List PathChar} (hs : s ≠ []) (ss : List (List PathChar)) :
    leadOf (s :: ss) = leadOf [s] := by
  unfold leadOf
  split <;> simp_all

theorem steps_empty : steps [[]] = [] := rfl

theorem read_append {ss ts : List (List PathChar)} (hss : ss ≠ []) (hts : ts ≠ []) :
    read (ss ++ ts) = read (ss ++ [[]]) ++ steps ts := by
  obtain ⟨s, ss, rfl⟩ := List.exists_cons_of_ne_nil hss
  have hlead : leadOf (s :: (ss ++ ts)) = leadOf (s :: (ss ++ [[]])) :=
    leadOf_cons s (by simp [hts]) (by simp)
  rw [List.cons_append, List.cons_append, read, read, hlead, ← List.cons_append,
    ← List.cons_append, steps_append, steps_append, steps_empty, List.append_nil,
    List.append_assoc]

/-- Nothing behind a slash adds no step. -/
theorem read_append_empty {ss : List (List PathChar)} (hss : ss ≠ []) (hempty : ss ≠ [[]]) :
    read (ss ++ [[]]) = read ss := by
  obtain ⟨s, ss, rfl⟩ := List.exists_cons_of_ne_nil hss
  have hlead : leadOf (s :: (ss ++ [[]])) = leadOf (s :: ss) := by
    by_cases htail : ss = []
    · have hs : s ≠ [] := by
        rintro rfl
        exact hempty (by rw [htail])
      rw [leadOf_cons_of_ne_nil hs, ← leadOf_cons_of_ne_nil hs ss]
    · exact leadOf_cons s (by simp) htail
  rw [List.cons_append, read, read, hlead, ← List.cons_append, steps_append, steps_empty,
    List.append_nil]

/-! ## 4. Joining -/

/-- A directory, ready for a name behind it. -/
def opened (cs : List PathChar) : List PathChar :=
  if cs.getLast?.all (· == slash) then cs else cs ++ [slash]

theorem opened_opened (cs : List PathChar) : opened (opened cs) = opened cs := by
  have hlast : (opened cs).getLast?.all (· == slash) = true := by
    rw [opened]
    split
    · assumption
    · simp
  rw [opened.eq_1 (opened cs), if_pos hlast]

theorem opened_append (a : List PathChar) {b : List PathChar} (hb : b ≠ []) :
    opened (a ++ b) = a ++ opened b := by
  have hlast : (a ++ b).getLast? = b.getLast? := by
    rw [List.getLast?_append, List.getLast?_eq_some_getLast hb, Option.some_or]
  rw [opened, opened, hlast]
  split <;> simp

theorem join_absolute (p : Path) {q : Path} (hq : q.isAbsolute = true) : p.join q = q := by
  rw [join, if_pos hq]

theorem chars_join (p : Path) {q : Path} (hq : q.isAbsolute = false) :
    (p.join q).chars = opened p.chars ++ q.chars := by
  rw [join, hq, if_neg Bool.false_ne_true, opened]
  split <;> simp

theorem ext_chars {p q : Path} (h : p.chars = q.chars) : p = q := by
  cases p
  cases q
  exact congrArg Path.mk h

@[simp] theorem empty_join (p : Path) : (⟨[]⟩ : Path).join p = p := by
  cases hp : p.isAbsolute with
  | true => exact join_absolute _ hp
  | false =>
    refine ext_chars ?_
    rw [chars_join _ hp]
    rfl

/-- What begins a joined path is the directory, unless that has no text. -/
theorem isAbsolute_join {p : Path} (hp : p.chars ≠ []) {q : Path}
    (hq : q.isAbsolute = false) : (p.join q).isAbsolute = p.isAbsolute := by
  obtain ⟨c, cs, hc⟩ := List.exists_cons_of_ne_nil hp
  rw [isAbsolute, isAbsolute, chars_join p hq, hc, opened]
  split <;> rfl

/-- **Joining is associative**, down to the spelling. -/
theorem join_assoc (r p q : Path) : r.join (p.join q) = (r.join p).join q := by
  cases hq : q.isAbsolute with
  | true => rw [join_absolute p hq, join_absolute _ hq, join_absolute _ hq]
  | false =>
    by_cases hp : p.chars = []
    · have hempty : p = ⟨[]⟩ := ext_chars hp
      refine ext_chars ?_
      rw [hempty, empty_join, chars_join r hq, chars_join _ hq, chars_join r (by rfl)]
      rw [List.append_nil, opened_opened]
    · cases hpabs : p.isAbsolute with
      | true =>
        rw [join_absolute r hpabs, join_absolute r ((isAbsolute_join hp hq).trans hpabs)]
      | false =>
        refine ext_chars ?_
        rw [chars_join r ((isAbsolute_join hp hq).trans hpabs), chars_join p hq,
          chars_join _ hq, chars_join r hpabs, opened_append _ hp, List.append_assoc]

/-- **The segments of a joined path**, if the directory has any text.  A slash at the end of the
directory is the one that separates. -/
theorem segments_join {p : Path} (hp : p.chars ≠ []) {q : Path} (hq : q.isAbsolute = false) :
    ∃ ss, ss ≠ [] ∧ (p.join q).segments = ss ++ q.segments ∧
      (p.segments = ss ++ [[]] ∨ p.segments = ss ∧ ss ≠ [[]]) := by
  rw [segments, segments, segments, chars_join p hq, opened]
  generalize p.chars = text at hp
  split
  · next hslash =>
    rw [List.getLast?_eq_some_getLast hp, Option.all_some, beq_iff_eq] at hslash
    obtain ⟨before, hbefore⟩ : ∃ before, text = before ++ [slash] :=
      ⟨text.dropLast, by rw [← hslash, List.dropLast_concat_getLast]⟩
    refine ⟨before.splitOn slash, List.splitOn_ne_nil _ _, ?_, Or.inl ?_⟩
    · rw [hbefore, List.append_assoc, List.singleton_append, splitOn_slash]
    · rw [hbefore, splitOn_slash, List.splitOn_nil]
  · refine ⟨text.splitOn slash, List.splitOn_ne_nil _ _, ?_, Or.inr ⟨rfl, ?_⟩⟩
    · rw [List.append_assoc, List.singleton_append, splitOn_slash]
    · intro h
      have htext : [slash].intercalate (text.splitOn slash) = text := List.intercalate_splitOn slash
      rw [h] at htext
      exact hp htext.symm

/-- **The steps of a joined path**, if the directory has any text. -/
theorem parts_join {p : Path} (hp : p.chars ≠ []) {q : Path} (hq : q.isAbsolute = false) :
    (p.join q).parts = p.parts ++ steps q.segments := by
  obtain ⟨ss, hss, hjoin, hslash | ⟨hplain, hempty⟩⟩ := segments_join hp hq
  · rw [parts_eq_read, parts_eq_read, hjoin, hslash, read_append hss (segments_ne_nil q)]
  · rw [parts_eq_read, parts_eq_read, hjoin, hplain, read_append hss (segments_ne_nil q),
      read_append_empty hss hempty]

/-- The steps of a path that is just a component. -/
theorem parts_component {s : List PathChar} (h : IsComponent s) :
    (⟨s⟩ : Path).parts = [.name s] := by
  have hlead : leadOf [s] = [] := by
    unfold leadOf
    split
    · next heq => simp at heq
    · next heq =>
      rw [List.cons.injEq] at heq
      exact absurd heq.1 h.ne_dot
    · rfl
  rw [parts_eq_read, segments_component h, read, hlead, steps_component h, List.nil_append]

theorem isAbsolute_component {s : List PathChar} (h : IsComponent s) :
    (⟨s⟩ : Path).isAbsolute = false := by
  rw [isAbsolute, beq_eq_false_iff_ne]
  intro hhead
  exact h.no_slash (List.mem_of_mem_head? hhead)

/-- **A component is one more step**, whatever the directory is. -/
theorem parts_join_component (p : Path) {s : List PathChar} (h : IsComponent s) :
    (p.join ⟨s⟩).parts = p.parts ++ [.name s] := by
  by_cases hp : p.chars = []
  · have hempty : p = ⟨[]⟩ := ext_chars hp
    rw [hempty, empty_join, parts_component h]
    rfl
  · rw [parts_join hp (isAbsolute_component h), segments_component h, steps_component h]

/-- Nothing is no step. -/
theorem parts_join_empty (p : Path) : (p.join ⟨[]⟩).parts = p.parts := by
  by_cases hp : p.chars = []
  · have hempty : p = ⟨[]⟩ := ext_chars hp
    rw [hempty, empty_join]
  · have hsegments : (⟨[]⟩ : Path).segments = [[]] := List.splitOn_nil slash
    rw [parts_join hp (by decide), hsegments, steps_empty, List.append_nil]

/-! ## 5. What there is among steps -/

theorem mem_steps {p : Path} {part : Part} (h : part ∈ steps p.segments) :
    part = .up ∨ ∃ s, IsComponent s ∧ part = .name s := by
  obtain ⟨cs, hcs, hpart⟩ := List.mem_filterMap.mp h
  exact ofSegment?_eq_some (no_slash_of_mem_segments hcs) hpart

/-- Every path is a lead, then climbs and components. -/
theorem parts_eq_lead_append (p : Path) : p.parts = p.lead ++ steps p.segments := rfl

theorem lead_absolute {p : Path} (hp : p.isAbsolute = true) : p.lead = [.root] := by
  rw [lead, if_pos hp]

theorem lead_relative {p : Path} (hp : p.isAbsolute = false) : p.lead = [] ∨ p.lead = [.here] := by
  rw [lead, hp, if_neg Bool.false_ne_true]
  split
  · exact Or.inr rfl
  · exact Or.inl rfl

end SchemaClass.Path
