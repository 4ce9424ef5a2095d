import SchemaClass.Path.Specifier
import SchemaClass.Proofs.Document.Validity
import SchemaClass.Proofs.Path.Reading
/-!
# Names of files

The words of a name are its characters in lowercase, so the file name of an identifier has neither a
slash nor a dot: it is one component of a path, and the extension behind it can be told apart.

* `mem_words`, `mem_kebab`: what is in a name of lowercase words;
* `isPlain_kebab`: that of an identifier is plain;
* `isComponent_append`: what ends in a plain text names a file;
* `dropSourceExtension_dotted`: what is left of a file name without its extension.
-/

namespace SchemaClass

/-- A text without slashes and dots. -/
def IsPlain (s : String) : Prop := '/' ∉ s.toList ∧ '.' ∉ s.toList

instance (s : String) : Decidable (IsPlain s) :=
  inferInstanceAs (Decidable ('/' ∉ s.toList ∧ '.' ∉ s.toList))

namespace Naming

open Text Text.LetterCase

/-! ## 1. Lowercase words -/

/-- The words of a name have its own characters in lowercase, and no separators. -/
theorem mem_words {s : String} {word : List Char} (h : word ∈ words s) {c : Char} (hc : c ∈ word) :
    ∃ d ∈ s.toList, isSeparator d = false ∧ c ∈ lower d := by
  obtain ⟨hump, hhump, rfl⟩ := List.mem_map.mp h
  obtain ⟨piece, hpiece, hhump⟩ := List.mem_flatMap.mp hhump
  obtain ⟨d, hd, hc⟩ := List.mem_flatMap.mp hc
  have hd' : d ∈ piece := by
    rw [← flatten_humps piece]
    exact List.mem_flatten.mpr ⟨hump, hhump, hd⟩
  have hsep := mem_of_mem_splitOnP hpiece d hd'
  exact ⟨d, hsep.1, hsep.2, hc⟩

/-- **A name in lowercase words has hyphens and its own characters in lowercase.** -/
theorem mem_kebab {s : String} {c : Char} (h : c ∈ (kebab s).toList) :
    c = '-' ∨ ∃ d ∈ s.toList, isSeparator d = false ∧ c ∈ lower d := by
  rw [kebab, String.toList_ofList] at h
  rcases mem_intercalate h with h | ⟨word, hword, hc⟩
  · exact Or.inl (List.mem_singleton.mp h)
  · exact Or.inr (mem_words hword hc)

/-! ## 2. Identifiers -/

/-- Identifiers are ASCII. -/
theorem isAscii_of_continues {c : Char} (h : ContinuesIdentifier c) : isAscii c = true := by
  rw [isAscii, decide_eq_true_iff]
  rcases h with h | rfl | rfl
  · have hranges : c.isAlphanum
        = (decide ('A'.val ≤ c.val ∧ c.val ≤ 'Z'.val) ||
            (decide ('a'.val ≤ c.val) && decide (c.val ≤ 'z'.val)) ||
            (decide ('0'.val ≤ c.val) && decide (c.val ≤ '9'.val))) := rfl
    simp only [hranges, Bool.or_eq_true, Bool.and_eq_true, decide_eq_true_eq,
      UInt32.le_iff_toNat_le] at h
    have h9 : '9'.val.toNat = 57 := rfl
    have hZ : 'Z'.val.toNat = 90 := rfl
    have hz : 'z'.val.toNat = 122 := rfl
    rw [Char.toNat]
    omega
  · decide
  · decide

/-- What holds of the first 128 characters holds of ASCII. -/
theorem forall_ascii {P : Char → Prop} (h : ∀ n < 128, P (Char.ofNat n)) {c : Char}
    (hc : isAscii c = true) : P c := by
  rw [isAscii, decide_eq_true_iff] at hc
  have hP : P (Char.ofNat c.toNat) := h c.toNat hc
  rwa [Char.ofNat_toNat] at hP

/-- Lowercase keeps letters letters, and leaves the rest of ASCII as it is. -/
theorem plain_toLower {c : Char} (h : ContinuesIdentifier c) : c.toLower ≠ '/' ∧ c.toLower ≠ '.' := by
  refine forall_ascii (P := fun c => ContinuesIdentifier c → c.toLower ≠ '/' ∧ c.toLower ≠ '.') ?_
    (isAscii_of_continues h) h
  unfold ContinuesIdentifier
  decide

theorem continues_of_spelled {s : String} (h : SpelledAsIdentifier s) :
    ∀ c ∈ s.toList, ContinuesIdentifier c := by
  obtain ⟨c, cs, hs, hc, hcs⟩ := h
  intro d hd
  rw [hs] at hd
  rcases List.mem_cons.mp hd with rfl | hd
  · rcases hc with h | h | h
    · exact Or.inl (by rw [Char.isAlphanum, h, Bool.true_or])
    · exact Or.inr (Or.inl h)
    · exact Or.inr (Or.inr h)
  · exact hcs d hd

/-- **The file name of an identifier is plain.** -/
theorem isPlain_kebab {s : String} (h : SpelledAsIdentifier s) : IsPlain (kebab s) := by
  have hne : ∀ c ∈ (kebab s).toList, c ≠ '/' ∧ c ≠ '.' := by
    intro c hc
    rcases mem_kebab hc with rfl | ⟨d, hd, -, hcd⟩
    · decide
    · have hcont := continues_of_spelled h d hd
      rw [lower_ascii (isAscii_of_continues hcont), List.mem_singleton] at hcd
      exact hcd ▸ plain_toLower hcont
  exact ⟨fun hc => (hne _ hc).1 rfl, fun hc => (hne _ hc).2 rfl⟩

end Naming

namespace Path

/-! ## 3. File names -/

/-- **What ends in a plain text names a file**, if there are no slashes before. -/
theorem isComponent_append {s t : String} (hs : '/' ∉ s.toList) (ht : IsPlain t) (hne : t ≠ "") :
    IsComponent (s ++ t : String) := by
  obtain ⟨c, cs, hc⟩ := List.exists_cons_of_ne_nil (mt String.toList_eq_nil_iff.mp hne)
  have hmem : c ∈ (s ++ t).toList := by
    rw [String.toList_append, hc]
    exact List.mem_append_right _ List.mem_cons_self
  have hdot : c ≠ '.' := fun h => ht.2 (h ▸ hc ▸ List.mem_cons_self)
  refine isComponent_ofText ?_ ?_ ?_ ?_
  · intro h
    rw [h] at hmem
    exact List.not_mem_nil hmem
  · intro h
    rw [h] at hmem
    exact hdot (List.mem_singleton.mp hmem)
  · intro h
    rw [h] at hmem
    rcases List.mem_cons.mp hmem with h | h
    · exact hdot h
    · exact hdot (List.mem_singleton.mp h)
  · rw [String.toList_append, List.mem_append, not_or]
    exact ⟨hs, ht.1⟩

theorem isComponent_of_isPlain {s : String} (hs : IsPlain s) (hne : s ≠ "") : IsComponent s := by
  have h : IsComponent ("" ++ s : String) := isComponent_append List.not_mem_nil hs hne
  rwa [String.empty_append] at h

/-- Two dots begin a text behind a plain one only if they begin that text. -/
theorem not_dots_append {s t : String} (hs : IsPlain s) (ht : ¬ ['.', '.'] <+: t.toList) :
    ¬ ['.', '.'] <+: (s ++ t).toList := by
  rw [String.toList_append]
  match h : s.toList with
  | [] => exact ht
  | c :: cs =>
    intro hprefix
    have hc : '.' = c := (List.cons_prefix_cons.mp hprefix).1
    exact hs.2 (h ▸ hc ▸ List.mem_cons_self)

theorem cutAtLastDot?_append (stem : List Char) {extension : List Char} (h : '.' ∉ extension) :
    cutAtLastDot? (stem ++ '.' :: extension) = some (stem, extension) := by
  have hpass : ∀ c ∈ extension.reverse, (c != '.') = true := by
    intro c hc
    rw [bne_iff_ne]
    rintro rfl
    exact h (List.mem_reverse.mp hc)
  have hreverse : (stem ++ '.' :: extension).reverse
      = extension.reverse ++ '.' :: stem.reverse := by
    rw [List.reverse_append, List.reverse_cons, List.append_assoc, List.singleton_append]
  have hstop : ('.' != '.') = false := by decide
  rw [cutAtLastDot?, hreverse, List.dropWhile_append_of_pos hpass,
    List.takeWhile_append_of_pos hpass, List.dropWhile_cons, List.takeWhile_cons, hstop,
    if_neg Bool.false_ne_true, if_neg Bool.false_ne_true, List.append_nil]
  simp only [List.reverse_reverse]

/-- **What is left of a file name without its source extension.** -/
theorem dropSourceExtension_dotted (stem : String) {extension : String}
    (h : '.' ∉ extension.toList) :
    dropSourceExtension (stem ++ "." ++ extension)
      = if stem ≠ "" ∧ extension ∈ sourceExtensions then stem
        else stem ++ "." ++ extension := by
  have hsplit : (stem ++ "." ++ extension).toList = stem.toList ++ '.' :: extension.toList := by
    rw [String.toList_append, String.toList_append, List.append_assoc]
    rfl
  have hif : (!stem.toList.isEmpty && sourceExtensions.contains extension) = true
      ↔ stem ≠ "" ∧ extension ∈ sourceExtensions := by
    simp
  rw [dropSourceExtension, hsplit, cutAtLastDot?_append _ h]
  dsimp only
  rw [String.ofList_toList, String.ofList_toList]
  simp only [hif]

end Path

end SchemaClass
