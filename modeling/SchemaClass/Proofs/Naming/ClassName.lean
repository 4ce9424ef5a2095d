import SchemaClass.Proofs.Naming
/-!
# Names of classes

A document is checked by the names of its models, and its classes go by other names: the pieces of
those, capitalized, without what separates them.  Most of what the check has established survives
that.  The characters are still those of an identifier, and since the first letter is a capital now,
no class name is a reserved word.  What does not survive is the first character: behind underscores
there may be a digit, or nothing at all.

* `mem_pascal`: what is in the name of a class;
* `head?_pascal`: what it begins with;
* `pascal_notMem_reservedWords`: no class is called by a reserved word;
* `spelledAsIdentifier_pascal_iff`: when the name of a class is an identifier.
-/

namespace SchemaClass

namespace Naming

open Text Text.LetterCase

/-! ## 1. The characters of a class name -/

theorem mem_capitalizeChars {c : Char} {piece : List Char} (h : c ∈ capitalizeChars piece) :
    ∃ d ∈ piece, c = d ∨ c ∈ upper d := by
  cases piece with
  | nil => exact absurd h List.not_mem_nil
  | cons d ds =>
    rw [capitalizeChars_cons, List.mem_append] at h
    rcases h with h | h
    · exact ⟨d, List.mem_cons_self, Or.inr h⟩
    · exact ⟨c, List.mem_cons_of_mem _ h, Or.inl rfl⟩

/-- **A class name has characters of the model name, some of them in uppercase.** -/
theorem mem_pascal {s : String} {c : Char} (h : c ∈ (pascal s).toList) :
    ∃ d ∈ s.toList, c = d ∨ c ∈ upper d := by
  rw [pascal, String.toList_ofList] at h
  obtain ⟨piece, hpiece, hc⟩ := List.mem_flatMap.mp h
  obtain ⟨d, hd, hc⟩ := mem_capitalizeChars hc
  exact ⟨d, (mem_of_mem_splitOnP hpiece d hd).1, hc⟩

/-- Pieces in front of the first character that is no separator are empty. -/
theorem head?_capitalized : ∀ text : List Char,
    ((text.splitOnP isSeparator).flatMap capitalizeChars).head?
      = (text.dropWhile isSeparator).head?.bind fun c => (upper c).head?
  | [] => rfl
  | c :: text => by
    rw [List.splitOnP_cons_eq_if_modifyHead, List.dropWhile_cons]
    by_cases hc : isSeparator c = true
    · rw [if_pos hc, if_pos hc, List.flatMap_cons, capitalizeChars_nil, List.nil_append]
      exact head?_capitalized text
    · obtain ⟨first, rest, hsplit⟩ :=
        List.exists_cons_of_ne_nil (List.splitOnP_ne_nil isSeparator text)
      obtain ⟨u, us, hupper⟩ := List.exists_cons_of_ne_nil (upper_ne_nil c)
      rw [if_neg hc, if_neg hc, hsplit, List.modifyHead_cons, List.flatMap_cons,
        capitalizeChars_cons, List.head?_cons, Option.bind_some, hupper]
      rfl

/-- **A class name begins with the first character that is no separator, in uppercase.** -/
theorem head?_pascal (s : String) : (pascal s).toList.head?
    = (s.toList.dropWhile isSeparator).head?.bind fun c => (upper c).head? := by
  rw [pascal, String.toList_ofList, pieces, head?_capitalized]

/-! ## 2. Class names of identifiers -/

/-- Uppercase leaves the characters of an identifier among them, and only a digit is no good as the
first of them. -/
theorem toUpper_of_continues {c : Char} (h : ContinuesIdentifier c) :
    ContinuesIdentifier c.toUpper ∧ c.toUpper.isLower = false ∧
      (StartsIdentifier c.toUpper ↔ c.isDigit = false) := by
  refine forall_ascii (P := fun c => ContinuesIdentifier c → ContinuesIdentifier c.toUpper ∧
    c.toUpper.isLower = false ∧ (StartsIdentifier c.toUpper ↔ c.isDigit = false)) ?_
    (isAscii_of_continues h) h
  unfold ContinuesIdentifier StartsIdentifier
  decide

/-- The first character behind the underscores in front, if there is one, is no digit. -/
def HasUsableStart (s : String) : Prop :=
  ∃ c cs, s.toList.dropWhile isSeparator = c :: cs ∧ c.isDigit = false

section Identifier

variable {s : String} (h : SpelledAsIdentifier s)

include h

theorem continues_pascal : ∀ c ∈ (pascal s).toList, ContinuesIdentifier c := by
  intro c hc
  obtain ⟨d, hd, hcd⟩ := mem_pascal hc
  have hcont := continues_of_spelled h d hd
  rcases hcd with rfl | hcd
  · exact hcont
  · rw [upper_ascii (isAscii_of_continues hcont), List.mem_singleton] at hcd
    exact hcd ▸ (toUpper_of_continues hcont).1

/-- What a class name begins with is the uppercase form of a character of the model name. -/
theorem exists_head_pascal {c : Char} {cs : List Char} (hc : (pascal s).toList = c :: cs) :
    ∃ d ds, s.toList.dropWhile isSeparator = d :: ds ∧ c = d.toUpper ∧ ContinuesIdentifier d := by
  have hhead := head?_pascal s
  rw [hc] at hhead
  cases hdrop : s.toList.dropWhile isSeparator with
  | nil =>
    rw [hdrop] at hhead
    cases hhead
  | cons d ds =>
    have hmem : d ∈ s.toList :=
      (List.dropWhile_suffix isSeparator).subset (hdrop ▸ List.mem_cons_self)
    have hcont := continues_of_spelled h d hmem
    rw [hdrop, List.head?_cons, List.head?_cons, Option.bind_some,
      upper_ascii (isAscii_of_continues hcont)] at hhead
    exact ⟨d, ds, rfl, Option.some.inj hhead, hcont⟩

/-- **A class name does not begin in lowercase.** -/
theorem isLower_head_pascal {c : Char} {cs : List Char} (hc : (pascal s).toList = c :: cs) :
    c.isLower = false := by
  obtain ⟨d, -, -, rfl, hcont⟩ := exists_head_pascal h hc
  exact (toUpper_of_continues hcont).2.1

/-- **No class name is a reserved word**: those begin in lowercase. -/
theorem pascal_notMem_reservedWords : pascal s ∉ reservedWords := by
  have hlower : (reservedWords.all fun word => word.toList.head?.any Char.isLower) = true := by
    decide
  intro hmem
  obtain ⟨c, hc, hc'⟩ := (Option.any_eq_true _ _).mp (List.all_eq_true.mp hlower _ hmem)
  obtain ⟨cs, hcs⟩ := List.head?_eq_some_iff.mp hc
  rw [isLower_head_pascal h hcs] at hc'
  cases hc'

/-- **When the class name of an identifier is an identifier.** -/
theorem spelledAsIdentifier_pascal_iff : SpelledAsIdentifier (pascal s) ↔ HasUsableStart s := by
  constructor
  · rintro ⟨c, cs, hc, hstart, -⟩
    obtain ⟨d, ds, hd, rfl, hcont⟩ := exists_head_pascal h hc
    exact ⟨d, ds, hd, (toUpper_of_continues hcont).2.2.mp hstart⟩
  · rintro ⟨d, ds, hd, hdigit⟩
    have hcont := continues_of_spelled h d
      ((List.dropWhile_suffix isSeparator).subset (hd ▸ List.mem_cons_self))
    have hhead := head?_pascal s
    rw [hd, List.head?_cons, Option.bind_some, upper_ascii (isAscii_of_continues hcont),
      List.head?_cons] at hhead
    obtain ⟨cs, hcs⟩ := List.head?_eq_some_iff.mp hhead
    refine ⟨d.toUpper, cs, hcs, (toUpper_of_continues hcont).2.2.mpr hdigit, fun c hc => ?_⟩
    exact continues_pascal h c (hcs ▸ List.mem_cons_of_mem _ hc)

end Identifier

end Naming

end SchemaClass
