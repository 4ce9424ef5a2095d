import SchemaClass.Document.Validation
import SchemaClass.Proofs.Text.Position
/-!
# What a label of a value covers

A value is searched for between its quotes and behind its key, so a label that is found covers the
value and nothing else, inside a pair of quotes that the key stands before.  Occurrences are met
from left to right, so a label with a higher number stands further right.

* `exists_of_isStoredUnder`: the key before a value;
* `occurrencesFrom_pairwise`: occurrences are met from left to right;
* `Stored`, `Stored.covers`: a place in a text where a value is stored under a key;
* `stored_of_mem_valueSpans`, `offset_lt_of_valueSpan?`: what is found, and in which order.
-/

namespace SchemaClass.Document

open Text

/-! ## 1. The key -/

/-- **What stands before a value** that is stored under a key: the key between quotes and a colon,
with blanks around the colon. -/
theorem exists_of_isStoredUnder {key : String} {before : List Char}
    (h : isStoredUnder key before = true) :
    ∃ front gap space, (∀ c ∈ gap, isBlank c = true) ∧ (∀ c ∈ space, isBlank c = true) ∧
      before = front ++ (quoted key ++ (gap ++ ':' :: space)) := by
  have hblank (cs : List Char) : ∀ c ∈ (cs.takeWhile isBlank).reverse, isBlank c = true :=
    fun c hc => List.mem_takeWhile_imp (List.mem_reverse.mp hc)
  have hsplit (cs : List Char) : cs.takeWhile isBlank ++ trimStart cs = cs :=
    List.takeWhile_append_dropWhile
  rw [isStoredUnder] at h
  split at h
  · next earlier hcolon =>
    obtain ⟨rest, hkey⟩ := Option.isSome_iff_exists.mp h
    refine ⟨rest.reverse, (earlier.takeWhile isBlank).reverse,
      (before.reverse.takeWhile isBlank).reverse, hblank _, hblank _, ?_⟩
    have hreverse : before.reverse = before.reverse.takeWhile isBlank
        ++ ':' :: (earlier.takeWhile isBlank ++ ((quoted key).reverse ++ rest)) := by
      rw [← dropToken?_eq_some.mp hkey, hsplit, ← hcolon, hsplit]
    exact List.reverse_inj.mp (hreverse.trans (by simp))
  · cases h

/-! ## 2. Occurrences -/

variable {token passed text before behind : List Char} {n : Nat}

theorem prefix_of_mem_occurrencesFrom
    (h : (before, behind) ∈ occurrencesFrom token passed n text) : passed.reverse <+: before := by
  have hpush (c : Char) (cs : List Char) : cs.reverse <+: (c :: cs).reverse := by
    rw [List.reverse_cons]
    exact List.prefix_append _ _
  fun_induction occurrencesFrom token passed n text with
  | case1 => cases h
  | case2 passed n c cs ih => exact (hpush c passed).trans (ih h)
  | case3 passed c cs rest hfound ih =>
    rcases List.mem_cons.mp h with h | h
    · cases h
      exact List.prefix_refl _
    · exact (hpush c passed).trans (ih h)
  | case4 passed c cs hnone ih => exact (hpush c passed).trans (ih h)

/-- **Occurrences are met from left to right.** -/
theorem occurrencesFrom_pairwise (token passed : List Char) (n : Nat) (text : List Char) :
    (occurrencesFrom token passed n text).Pairwise fun x y => byteLength x.1 < byteLength y.1 := by
  fun_induction occurrencesFrom token passed n text with
  | case1 => exact List.Pairwise.nil
  | case2 passed n c cs ih => exact ih
  | case3 passed c cs rest hfound ih =>
    refine List.pairwise_cons.mpr ⟨fun later hlater => ?_, ih⟩
    obtain ⟨more, hmore⟩ := prefix_of_mem_occurrencesFrom hlater
    have hsize : 0 < c.utf8Size := c.utf8Size_pos
    rw [← hmore, List.reverse_cons, byteLength_append, byteLength_append, byteLength_cons,
      byteLength_nil]
    dsimp only
    omega
  | case4 passed c cs hnone ih => exact ih

/-! ## 3. Labels -/

/-- A place in a text where a value is stored under a key: behind the key between quotes, a colon
with blanks around it, and a quote, and before another quote. -/
def Stored (text : List Char) (key value : String) (span : Span) : Prop :=
  ∃ front gap space behind, (∀ c ∈ gap, isBlank c = true) ∧ (∀ c ∈ space, isBlank c = true) ∧
    text = front ++ (quoted key ++ (gap ++ ':' :: (space ++ ['"'])))
      ++ (value.toList ++ '"' :: behind) ∧
    span = ⟨byteLength (front ++ (quoted key ++ (gap ++ ':' :: (space ++ ['"'])))),
      byteLength value.toList⟩

variable {key value : String} {span : Span}

/-- **What is found is stored under the key.** -/
theorem stored_of_mem_valueSpans (h : span ∈ valueSpans text key value) :
    Stored text key value span := by
  obtain ⟨⟨before, behind⟩, hmem, rfl⟩ := List.mem_map.mp h
  obtain ⟨hfound, hkey⟩ := List.mem_filter.mp hmem
  obtain ⟨front, gap, space, hgap, hspace, hbefore⟩ := exists_of_isStoredUnder hkey
  have hquote : before ++ ['"']
      = front ++ (quoted key ++ (gap ++ ':' :: (space ++ ['"']))) := by
    rw [hbefore]
    simp
  refine ⟨front, gap, space, behind, hgap, hspace, ?_, ?_⟩
  · rw [← hquote, occurrences_sides hfound, quoted]
    simp
  · rw [← hquote, byteLength_append]
    rfl

/-- A label of a stored value covers the value. -/
theorem Stored.covers (h : Stored text key value span) :
    sliceBytes? span.offset (span.offset + span.length) text = some value.toList := by
  obtain ⟨front, gap, space, behind, -, -, htext, hspan⟩ := h
  rw [hspan, htext]
  exact sliceBytes?_append _ _ _

theorem Stored.in_text (h : Stored text key value span) :
    span.offset + span.length ≤ byteLength text := by
  obtain ⟨front, gap, space, behind, -, -, htext, hspan⟩ := h
  rw [hspan, htext]
  exact byteLength_add_le _ _ _

/-- The places of a value are found from left to right. -/
theorem valueSpans_pairwise (text : List Char) (key value : String) :
    (valueSpans text key value).Pairwise (·.offset < ·.offset) := by
  refine List.pairwise_map.mpr (List.Pairwise.filter _ ?_)
  exact (occurrencesFrom_pairwise (quoted value) [] 0 text).imp fun hlt => Nat.succ_lt_succ hlt

theorem offset_lt_of_valueSpan? {m n : Nat} {s t : Span} (hmn : m < n)
    (hs : valueSpan? text key value m = some s) (ht : valueSpan? text key value n = some t) :
    s.offset < t.offset := by
  obtain ⟨hm, rfl⟩ := List.getElem?_eq_some_iff.mp hs
  obtain ⟨hn, rfl⟩ := List.getElem?_eq_some_iff.mp ht
  exact List.pairwise_iff_getElem.mp (valueSpans_pairwise text key value) m n hm hn hmn

end SchemaClass.Document
