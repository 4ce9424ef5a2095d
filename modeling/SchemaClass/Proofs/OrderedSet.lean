import Mathlib.Data.List.Induction
import Mathlib.Data.List.Perm.Subperm
import SchemaClass.OrderedSet
/-!
# First occurrences

`OrderedSet.distinct` keeps every element of a list where it stands first.  Two lists may be joined
before or after repetitions are dropped, and what has been met already adds nothing.

* `distinct_eq_eraseDups`: it is the operation of the standard library;
* `length_distinct_eq_iff`: nothing is dropped just from lists without repetition;
* `foldl_insertNew_eq`: what is inserted into a set comes behind it, without what is there;
* `distinct_append_congr`: the first occurrences of a joined list depend on those of its parts only;
* `IsFirst`, `find?_eq_some_iff_isFirst`: the first element that satisfies a condition;
* `firstReferences_distinct`: what the elements of a list refer to, in the order of first reference.
-/

namespace SchemaClass.OrderedSet

variable {α : Type} [DecidableEq α]

/-! ## 1. One element at a time -/

theorem distinct_append_singleton (as : List α) (a : α) :
    distinct (as ++ [a]) = insertNew (distinct as) a := by
  simp [distinct, List.foldl_append]

theorem distinct_append_eq_foldl (as bs : List α) :
    distinct (as ++ bs) = bs.foldl insertNew (distinct as) := by
  simp [distinct, List.foldl_append]

theorem distinct_eq_eraseDups (as : List α) : distinct as = as.eraseDups := by
  induction as using List.reverseRecOn with
  | nil => rfl
  | append_singleton as a ih =>
    rw [distinct_append_singleton, ih, List.eraseDups_append]
    by_cases ha : a ∈ as
    · rw [insertNew_of_mem (List.mem_eraseDups.mpr ha)]
      simp [List.removeAll, ha]
    · rw [insertNew_of_not_mem (mt List.mem_eraseDups.mp ha)]
      simp [List.removeAll, ha, List.eraseDups_cons]

/-! ## 2. Lists without repetition -/

theorem distinct_of_nodup {as : List α} (h : as.Nodup) : distinct as = as := by
  induction as using List.reverseRecOn with
  | nil => rfl
  | append_singleton as a ih =>
    rw [List.nodup_append] at h
    have ha : a ∉ as := fun ha => h.2.2 a ha a (by simp) rfl
    rw [distinct_append_singleton, ih h.1, insertNew_of_not_mem ha]

theorem distinct_distinct (as : List α) : distinct (distinct as) = distinct as :=
  distinct_of_nodup (nodup_distinct as)

/-- **Nothing is dropped just from lists without repetition.** -/
theorem length_distinct_eq_iff {as : List α} : (distinct as).length = as.length ↔ as.Nodup := by
  constructor
  · intro h
    have hsub : (distinct as).Subperm as :=
      (nodup_distinct as).subperm fun a ha => mem_distinct.mp ha
    have hperm : (distinct as).Perm as := hsub.perm_of_length_le (Nat.le_of_eq h.symm)
    exact hperm.nodup_iff.mp (nodup_distinct as)
  · intro h
    rw [distinct_of_nodup h]

/-! ## 3. Joined lists -/

/-- What is inserted into a set comes behind it, without what is there. -/
theorem foldl_insertNew_eq (as s : List α) :
    as.foldl insertNew s = s ++ (distinct as).filter (· ∉ s) := by
  induction as using List.reverseRecOn with
  | nil => simp
  | append_singleton as a ih =>
    rw [List.foldl_append, List.foldl_cons, List.foldl_nil, ih, distinct_append_singleton]
    by_cases hd : a ∈ distinct as
    · rw [insertNew_of_mem hd]
      by_cases hs : a ∈ s
      · exact insertNew_of_mem (List.mem_append_left _ hs)
      · refine insertNew_of_mem (List.mem_append_right _ ?_)
        simp [hd, hs]
    · rw [insertNew_of_not_mem hd, List.filter_append]
      by_cases hs : a ∈ s
      · rw [insertNew_of_mem (List.mem_append_left _ hs)]
        simp [hs]
      · have hnot : a ∉ s ++ (distinct as).filter (· ∉ s) := by
          rw [List.mem_append, List.mem_filter]
          rintro (h | h)
          · exact hs h
          · exact hd h.1
        rw [insertNew_of_not_mem hnot]
        simp [hs]

theorem distinct_append (as bs : List α) :
    distinct (as ++ bs) = distinct as ++ (distinct bs).filter (· ∉ as) := by
  rw [distinct_append_eq_foldl, foldl_insertNew_eq]
  simp only [mem_distinct]

/-- The first occurrences of a joined list depend on those of its parts only. -/
theorem distinct_append_congr {as as' bs bs' : List α} (ha : distinct as = distinct as')
    (hb : distinct bs = distinct bs') : distinct (as ++ bs) = distinct (as' ++ bs') := by
  rw [distinct_append_eq_foldl, distinct_append_eq_foldl, foldl_insertNew_eq, foldl_insertNew_eq,
    ha, hb]

theorem distinct_append_of_disjoint {as bs : List α} (h : ∀ b ∈ bs, b ∉ as) :
    distinct (as ++ bs) = distinct as ++ distinct bs := by
  rw [distinct_append]
  congr 1
  rw [List.filter_eq_self]
  intro b hb
  exact decide_eq_true (h b (mem_distinct.mp hb))

/-- What has been met before adds nothing. -/
theorem distinct_append_of_subset {as bs : List α} (h : ∀ b ∈ bs, b ∈ as) :
    distinct (as ++ bs) = distinct as := by
  rw [distinct_append, List.filter_eq_nil_iff.mpr, List.append_nil]
  intro b hb
  simpa using h b (mem_distinct.mp hb)

theorem distinct_map {β : Type} [DecidableEq β] {f : α → β} (hf : ∀ a b, f a = f b → a = b)
    (as : List α) : distinct (as.map f) = (distinct as).map f := by
  induction as using List.reverseRecOn with
  | nil => rfl
  | append_singleton as a ih =>
    rw [List.map_append, List.map_singleton, distinct_append_singleton, ih,
      distinct_append_singleton]
    by_cases ha : a ∈ distinct as
    · rw [insertNew_of_mem ha, insertNew_of_mem (List.mem_map_of_mem ha)]
    · have hfa : f a ∉ (distinct as).map f := by
        intro hmem
        obtain ⟨b, hb, heq⟩ := List.mem_map.mp hmem
        exact ha (hf b a heq ▸ hb)
      rw [insertNew_of_not_mem ha, insertNew_of_not_mem hfa, List.map_append, List.map_singleton]

/-- Repetitions may be dropped before elements are replaced or left out. -/
theorem distinct_filterMap_distinct {β : Type} [DecidableEq β] (f : α → Option β) (as : List α) :
    distinct ((distinct as).filterMap f) = distinct (as.filterMap f) := by
  induction as using List.reverseRecOn with
  | nil => rfl
  | append_singleton as a ih =>
    rw [distinct_append_singleton, List.filterMap_append]
    by_cases ha : a ∈ as
    · rw [insertNew_of_mem (mem_distinct.mpr ha), ih, distinct_append_of_subset]
      intro b hb
      simp only [List.mem_filterMap, List.mem_singleton, exists_eq_left] at hb ⊢
      exact ⟨a, ha, hb⟩
    · rw [insertNew_of_not_mem (mt mem_distinct.mp ha), List.filterMap_append]
      exact distinct_append_congr ih rfl

theorem distinct_filterMap_singleton {ι : Type} (f : ι → Option α) (i : ι) :
    distinct ([i].filterMap f) = (f i).toList := by
  cases h : f i with
  | none => simp [h]
  | some a => simp [h, distinct]

/-- The first occurrences may be found for each element on its own first. -/
theorem distinct_filterMap_eq_flatMap {ι : Type} (f : ι → Option α) (is : List ι) :
    distinct (is.filterMap f) = distinct (is.flatMap fun i => distinct ([i].filterMap f)) := by
  induction is with
  | nil => rfl
  | cons i is ih =>
    have hsplit : (i :: is).filterMap f = [i].filterMap f ++ is.filterMap f :=
      List.filterMap_append (l := [i])
    rw [hsplit, List.flatMap_cons]
    exact distinct_append_congr (distinct_distinct _).symm ih

/-- What is left out of a list is left out of its first occurrences. -/
theorem distinct_filter (p : α → Bool) (as : List α) :
    distinct (as.filter p) = (distinct as).filter p := by
  have h := distinct_filterMap_distinct (Option.guard p) as
  rw [List.filterMap_eq_filter] at h
  rw [← h, distinct_of_nodup ((nodup_distinct as).filter p)]

/-- A list of one element over and over. -/
theorem distinct_eq_singleton {as : List α} {a : α} (hne : as ≠ []) (h : ∀ b ∈ as, b = a) :
    distinct as = [a] := by
  induction as using List.reverseRecOn with
  | nil => exact absurd rfl hne
  | append_singleton as b ih =>
    obtain rfl : b = a := h b (by simp)
    rw [distinct_append_singleton]
    by_cases hnil : as = []
    · rw [hnil]
      rfl
    · rw [ih hnil fun c hc => h c (by simp [hc])]
      exact insertNew_of_mem (by simp)

/-! ## 4. The first of its kind -/

section First

variable {ι : Type}

/-- `i` is the first element of a list that satisfies a condition. -/
def IsFirst (p : ι → Prop) (is : List ι) (i : ι) : Prop :=
  p i ∧ ∃ before after, is = before ++ i :: after ∧ ∀ j ∈ before, ¬ p j

theorem find?_eq_some_iff_isFirst {p : ι → Prop} [DecidablePred p] {is : List ι} {i : ι} :
    is.find? (fun j => p j) = some i ↔ IsFirst p is i := by
  rw [List.find?_eq_some_iff_append, IsFirst]
  simp

/-- What the elements of a list refer to, each once, in the order of first reference. -/
structure FirstReferences (refers : ι → α → Prop) (is : List ι) (as : List α) : Prop where
  mem_iff : ∀ a, a ∈ as ↔ ∃ i ∈ is, refers i a
  nodup : as.Nodup
  /-- Somewhere in the list there has been a reference to what comes first, and none yet to what
  comes later. -/
  ordered : as.Pairwise fun a b =>
    ∃ before, before <+: is ∧ (∃ i ∈ before, refers i a) ∧ ∀ i ∈ before, ¬ refers i b

/-- **First occurrences of references are in the order of first reference**, if every element
refers to one thing at most. -/
theorem firstReferences_distinct {refers : ι → α → Prop} {refer : ι → Option α}
    (h : ∀ i a, refers i a ↔ refer i = some a) (is : List ι) :
    FirstReferences refers is (distinct (is.filterMap refer)) := by
  obtain rfl : refers = fun i a => refer i = some a := by
    funext i a
    exact propext (h i a)
  refine ⟨fun a => by simp, nodup_distinct _, ?_⟩
  induction is using List.reverseRecOn with
  | nil => simp
  | append_singleton is i ih =>
    -- a beginning of the shorter list is one of the longer list
    have hlonger := ih.imp fun {a b} h => by
      obtain ⟨before, hbefore, h⟩ := h
      exact (⟨before, hbefore.trans (List.prefix_append is [i]), h⟩ : ∃ before,
        before <+: is ++ [i] ∧ (∃ j ∈ before, refer j = some a) ∧ ∀ j ∈ before, refer j ≠ some b)
    cases hi : refer i with
    | none => simpa [hi] using hlonger
    | some c =>
      have hmap : (is ++ [i]).filterMap refer = is.filterMap refer ++ [c] := by simp [hi]
      rw [hmap, distinct_append_singleton]
      by_cases hc : c ∈ distinct (is.filterMap refer)
      · rw [insertNew_of_mem hc]
        exact hlonger
      · rw [insertNew_of_not_mem hc, List.pairwise_append]
        refine ⟨hlonger, List.pairwise_singleton _ _, ?_⟩
        intro a ha b hb
        obtain rfl := List.mem_singleton.mp hb
        refine ⟨is, List.prefix_append is [i], by simpa using ha, ?_⟩
        intro j hj hrefer
        exact hc (mem_distinct.mpr (List.mem_filterMap.mpr ⟨j, hj, hrefer⟩))

end First

end SchemaClass.OrderedSet
