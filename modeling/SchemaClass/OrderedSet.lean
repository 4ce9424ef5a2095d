/-!
# Sets in the order of insertion

A list in which every element stands once, where it was first inserted.

* `mem_insertNew`, `mem_distinct`: nothing is lost and nothing is added;
* `nodup_insertNew`, `nodup_distinct`: nothing stands twice.
-/

namespace SchemaClass.OrderedSet

variable {α : Type} [DecidableEq α]

/-- Adds an element at the end, unless it is there. -/
def insertNew (s : List α) (a : α) : List α := if a ∈ s then s else s ++ [a]

/-- The elements of a list at their first occurrence. -/
def distinct (as : List α) : List α := as.foldl insertNew []

@[simp] theorem insertNew_of_mem {s : List α} {a : α} (h : a ∈ s) : insertNew s a = s := by
  simp [insertNew, h]

@[simp] theorem insertNew_of_not_mem {s : List α} {a : α} (h : a ∉ s) :
    insertNew s a = s ++ [a] := by
  simp [insertNew, h]

@[simp] theorem mem_insertNew {s : List α} {a b : α} : b ∈ insertNew s a ↔ b ∈ s ∨ b = a := by
  by_cases h : a ∈ s
  · simp only [insertNew_of_mem h]
    exact ⟨Or.inl, fun hb => hb.elim id fun he => he ▸ h⟩
  · simp [insertNew_of_not_mem h]

theorem nodup_insertNew {s : List α} {a : α} (h : s.Nodup) : (insertNew s a).Nodup := by
  by_cases ha : a ∈ s
  · rwa [insertNew_of_mem ha]
  · rw [insertNew_of_not_mem ha]
    exact List.nodup_append.2
      ⟨h, by simp, fun x hx y hy he => ha (by simp_all)⟩

theorem mem_foldl_insertNew {as s : List α} {b : α} :
    b ∈ as.foldl insertNew s ↔ b ∈ s ∨ b ∈ as := by
  induction as generalizing s with
  | nil => simp
  | cons a as ih => simp [ih, or_assoc]

theorem nodup_foldl_insertNew {as s : List α} (h : s.Nodup) : (as.foldl insertNew s).Nodup := by
  induction as generalizing s with
  | nil => exact h
  | cons a as ih => exact ih (nodup_insertNew h)

@[simp] theorem distinct_nil : distinct ([] : List α) = [] := rfl

@[simp] theorem mem_distinct {as : List α} {a : α} : a ∈ distinct as ↔ a ∈ as := by
  simp [distinct, mem_foldl_insertNew]

theorem nodup_distinct (as : List α) : (distinct as).Nodup :=
  nodup_foldl_insertNew List.nodup_nil

end SchemaClass.OrderedSet
