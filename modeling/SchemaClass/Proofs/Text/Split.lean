import SchemaClass.Text.Search
/-!
# Splitting and joining texts

What is in the pieces of a text that has been split, and in a text that has been put together from
pieces.

* `mem_of_mem_splitOnP`: a piece has characters of the text and no separators;
* `mem_intercalate`: a joined text has the separator and characters of the pieces;
* `splitOnP_intercalate`: the pieces are read back from it;
* `takeWhile_stopped`, `dropWhile_stopped`: a run of elements with a condition, and what follows it;
* `IsLine`: a text without line breaks; `infix_ofLines`: lines stand in their text;
  `splitOn_ofLines`: they are read back from it.
-/

namespace SchemaClass.Text

/-! ## 1. Pieces -/

/-- **A piece has characters of the text, and none that separates.** -/
theorem mem_of_mem_splitOnP {α : Type} {p : α → Bool} : ∀ {text piece : List α},
    piece ∈ text.splitOnP p → ∀ c ∈ piece, c ∈ text ∧ p c = false
  | [], piece, h => by
    rw [List.splitOnP_nil, List.mem_singleton] at h
    rw [h]
    exact fun c hc => absurd hc List.not_mem_nil
  | d :: text, piece, h => by
    intro c hc
    rw [List.splitOnP_cons_eq_if_modifyHead] at h
    split at h
    · rcases List.mem_cons.mp h with rfl | h
      · exact absurd hc List.not_mem_nil
      · have ih := mem_of_mem_splitOnP h c hc
        exact ⟨List.mem_cons_of_mem _ ih.1, ih.2⟩
    · next hd =>
      obtain ⟨first, rest, hsplit⟩ := List.exists_cons_of_ne_nil (List.splitOnP_ne_nil p text)
      rw [hsplit, List.modifyHead_cons] at h
      rcases List.mem_cons.mp h with rfl | h
      · rcases List.mem_cons.mp hc with rfl | hc
        · exact ⟨List.mem_cons_self, Bool.eq_false_iff.mpr hd⟩
        · have ih := mem_of_mem_splitOnP (hsplit ▸ List.mem_cons_self) c hc
          exact ⟨List.mem_cons_of_mem _ ih.1, ih.2⟩
      · have ih := mem_of_mem_splitOnP (hsplit ▸ List.mem_cons_of_mem _ h) c hc
        exact ⟨List.mem_cons_of_mem _ ih.1, ih.2⟩

/-- **A joined text has the separator and characters of the pieces.** -/
theorem mem_intercalate {c : Char} {separator : List Char} : ∀ {pieces : List (List Char)},
    c ∈ separator.intercalate pieces → c ∈ separator ∨ ∃ piece ∈ pieces, c ∈ piece
  | [], h => absurd h List.not_mem_nil
  | [piece], h => by
    rw [List.intercalate_singleton] at h
    exact Or.inr ⟨piece, List.mem_singleton_self piece, h⟩
  | piece :: next :: pieces, h => by
    rw [List.intercalate_cons_cons, List.append_assoc] at h
    rcases List.mem_append.mp h with h | h
    · exact Or.inr ⟨piece, List.mem_cons_self, h⟩
    · rcases List.mem_append.mp h with h | h
      · exact Or.inl h
      · rcases mem_intercalate h with h | ⟨other, hother, h⟩
        · exact Or.inl h
        · exact Or.inr ⟨other, List.mem_cons_of_mem _ hother, h⟩

/-- **Pieces are read back from a joined text**, if the separator is one and they have none. -/
theorem splitOnP_intercalate {p : Char → Bool} {x : Char} (hx : p x = true) :
    ∀ {pieces : List (List Char)}, (∀ piece ∈ pieces, ∀ c ∈ piece, p c = false) → pieces ≠ [] →
      ([x].intercalate pieces).splitOnP p = pieces
  | [], _, hne => absurd rfl hne
  | [piece], h, _ => by
    rw [List.intercalate_singleton]
    exact List.splitOnP_eq_singleton (h piece (List.mem_singleton_self piece))
  | piece :: next :: pieces, h, _ => by
    obtain ⟨hpiece, hrest⟩ := List.forall_mem_cons.mp h
    rw [List.intercalate_cons_cons, List.append_assoc, List.singleton_append,
      List.splitOnP_append_cons_of_forall_mem hpiece x hx,
      splitOnP_intercalate hx hrest (List.cons_ne_nil next pieces)]

/-! ## 2. Runs -/

section Stopped

variable {α : Type} {p : α → Bool} {as : List α} {b : α} (h : ∀ a ∈ as, p a = true)
  (hb : p b = false)

include h hb

/-- What satisfies a condition, up to the first element that does not. -/
theorem takeWhile_stopped (bs : List α) : (as ++ b :: bs).takeWhile p = as := by
  rw [List.takeWhile_append_of_pos h, List.takeWhile_cons_of_neg (Bool.eq_false_iff.mp hb),
    List.append_nil]

theorem dropWhile_stopped (bs : List α) : (as ++ b :: bs).dropWhile p = b :: bs := by
  rw [List.dropWhile_append_of_pos h, List.dropWhile_cons_of_neg (Bool.eq_false_iff.mp hb)]

end Stopped

/-! ## 3. Lines -/

/-- A text without a line break. -/
def IsLine (s : String) : Prop := '\n' ∉ s.toList

instance (s : String) : Decidable (IsLine s) := inferInstanceAs (Decidable (¬ _))

theorem isLine_append {s t : String} : IsLine (s ++ t) ↔ IsLine s ∧ IsLine t := by
  rw [IsLine, String.toList_append, List.mem_append, not_or, IsLine, IsLine]

theorem isLine_intercalate {separator : String} {pieces : List String} (hs : IsLine separator)
    (h : ∀ piece ∈ pieces, IsLine piece) : IsLine (separator.intercalate pieces) := by
  rw [IsLine, String.toList_intercalate]
  intro hbreak
  rcases mem_intercalate hbreak with hbreak | ⟨_, hmem, hbreak⟩
  · exact hs hbreak
  · obtain ⟨piece, hpiece, rfl⟩ := List.mem_map.mp hmem
    exact h piece hpiece hbreak

/-- Lines, each with its end. -/
def ofLines (lines : List String) : List Char := lines.flatMap fun l => l.toList ++ ['\n']

theorem ofLines_append (lines more : List String) :
    ofLines (lines ++ more) = ofLines lines ++ ofLines more := List.flatMap_append

/-- A line stands in the text. -/
theorem infix_ofLines {l : String} {lines : List String} (h : l ∈ lines) :
    l.toList <:+: ofLines lines := by
  have hline : l.toList ++ ['\n'] ∈ lines.map fun l => l.toList ++ ['\n'] :=
    List.mem_map_of_mem h
  rw [ofLines, List.flatMap_def]
  exact (List.prefix_append l.toList ['\n']).isInfix.trans (List.infix_of_mem_flatten hline)

theorem ofLines_eq_intercalate : ∀ lines : List String,
    ofLines lines = ['\n'].intercalate (lines.map String.toList ++ [[]])
  | [] => rfl
  | l :: lines => by
    have hne : lines.map String.toList ++ [[]] ≠ [] := List.append_ne_nil_of_right_ne_nil _ nofun
    have ih := ofLines_eq_intercalate lines
    rw [List.map_cons, List.cons_append, List.intercalate_cons_of_ne_nil hne, ← ih]
    rfl

/-- The last line has an end, too. -/
theorem ofLines_of_ne_nil {lines : List String} (h : lines ≠ []) :
    ofLines lines = ("\n".intercalate lines).toList ++ ['\n'] := by
  induction lines with
  | nil => exact absurd rfl h
  | cons l lines ih =>
    cases lines with
    | nil => simp [ofLines]
    | cons next lines =>
      have hne : next :: lines ≠ [] := List.cons_ne_nil next lines
      have hcons : ofLines (l :: next :: lines)
          = l.toList ++ ['\n'] ++ ofLines (next :: lines) := rfl
      rw [hcons, ih hne, String.intercalate_cons_of_ne_nil hne]
      simp

/-- **Lines are read back from their text**, with nothing behind the last one. -/
theorem splitOn_ofLines {lines : List String} (h : ∀ l ∈ lines, IsLine l) :
    (ofLines lines).splitOn '\n' = lines.map String.toList ++ [[]] := by
  rw [ofLines_eq_intercalate]
  refine List.splitOn_intercalate '\n' ?_ (List.append_ne_nil_of_right_ne_nil _ nofun)
  intro piece hpiece
  rcases List.mem_append.mp hpiece with hpiece | hpiece
  · obtain ⟨l, hl, rfl⟩ := List.mem_map.mp hpiece
    exact h l hl
  · rw [List.mem_singleton.mp hpiece]
    exact List.not_mem_nil

end SchemaClass.Text
