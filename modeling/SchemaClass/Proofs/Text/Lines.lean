import SchemaClass.Proofs.Text.Position
/-!
# Lines and the places on them

A text is made up of its lines, where each line is kept with the line break that ends it.  So every
byte stands on exactly one line: on the one whose number, counted from zero, is how many line breaks
stand before the byte.  To find the offset of a line and a column, the lines before are added up.
That gives every byte back from its own line and column, and it never leaves a line whose columns
are kept to.

* `brokenLines`: the lines of a text, with their line breaks;
* `lineStart`, `OnLine`: where a line starts, and the bytes on it;
* `behindBreaks_eq_lineStart`: the lines before a place are those behind as many line breaks;
* `onLine_iff`: the line of a byte;
* `offsets_on_lines`: lines and columns as offsets, and back.
-/

namespace SchemaClass.Text

/-! ## 1. Lines -/

/-- The lines of a text, each with the line break that ends it.  The last one may have none, and
nothing stands behind a line break at the end of the text. -/
def brokenLines : List Char → List (List Char)
  | [] => []
  | c :: cs =>
    if c = '\n' then [c] :: brokenLines cs
    else
      match brokenLines cs with
      | [] => [[c]]
      | line :: lines => (c :: line) :: lines

/-- Where a line starts, in bytes.  The first line has the number zero. -/
def lineStart (text : List Char) (number : Nat) : Nat :=
  byteLength ((brokenLines text).take number).flatten

/-- The bytes of a line: from where it starts to where the next one does. -/
def OnLine (text : List Char) (number i : Nat) : Prop :=
  lineStart text number ≤ i ∧ i < lineStart text (number + 1)

instance (text : List Char) (number i : Nat) : Decidable (OnLine text number i) :=
  inferInstanceAs (Decidable (_ ∧ _))

theorem brokenLines_break (cs : List Char) :
    brokenLines ('\n' :: cs) = ['\n'] :: brokenLines cs := rfl

/-- A character that breaks no line belongs to the line that follows it, if there is one. -/
theorem flatten_take_brokenLines {c : Char} (h : c ≠ '\n') (cs : List Char) (n : Nat) :
    ((brokenLines (c :: cs)).take (n + 1)).flatten
      = c :: ((brokenLines cs).take (n + 1)).flatten := by
  rw [brokenLines, if_neg h]
  cases brokenLines cs <;> simp

/-- **The lines make up the text.** -/
theorem flatten_brokenLines (text : List Char) : (brokenLines text).flatten = text := by
  induction text with
  | nil => rfl
  | cons c cs ih =>
    rw [brokenLines]
    split
    · exact congrArg (_ :: ·) ih
    · split
      all_goals
        next hlines =>
          rw [hlines] at ih
          exact congrArg (c :: ·) ih

theorem ne_nil_of_mem_brokenLines {text line : List Char} (h : line ∈ brokenLines text) :
    line ≠ [] := by
  induction text generalizing line with
  | nil => simp [brokenLines] at h
  | cons c cs ih =>
    rw [brokenLines] at h
    split at h
    · rcases List.mem_cons.mp h with rfl | h
      · simp
      · exact ih h
    · split at h
      · simp_all
      · next first lines hlines =>
        rcases List.mem_cons.mp h with rfl | h
        · simp
        · exact ih (hlines ▸ List.mem_cons_of_mem first h)

/-! ## 2. Where lines start -/

section Starts

variable {text line : List Char} {number : Nat}

@[simp] theorem lineStart_zero (text : List Char) : lineStart text 0 = 0 := rfl

theorem lineStart_succ (h : (brokenLines text)[number]? = some line) :
    lineStart text (number + 1) = lineStart text number + byteLength line := by
  simp [lineStart, List.take_add_one, h]

theorem lineStart_mono {m n : Nat} (h : m ≤ n) : lineStart text m ≤ lineStart text n := by
  obtain ⟨more, hmore⟩ := List.take_prefix_take_left h (l := brokenLines text)
  rw [lineStart, lineStart, ← hmore, List.flatten_append, byteLength_append]
  omega

/-- **What stands behind so many line breaks** starts behind as many lines. -/
theorem behindBreaks_eq_lineStart (text : List Char) (number : Nat) :
    behindBreaks number text = lineStart text number := by
  induction text generalizing number with
  | nil => cases number <;> simp [behindBreaks, lineStart, brokenLines]
  | cons c cs ih =>
    cases number with
    | zero => rfl
    | succ number =>
      rw [behindBreaks, ih]
      by_cases hbreak : c = '\n'
      · subst hbreak
        simp [lineStart, brokenLines_break]
      · rw [if_neg hbreak, lineStart, lineStart, flatten_take_brokenLines hbreak, byteLength_cons]

end Starts

/-! ## 3. The line of a byte -/

/-- One line break more leads behind the byte. -/
theorem lt_behindBreaks {text : List Char} {i : Nat} (h : i < byteLength text) :
    i < behindBreaks (((bytes text).take i).count breakByte + 1) text := by
  induction text generalizing i with
  | nil => exact absurd h (Nat.not_lt_zero i)
  | cons c cs ih =>
    rcases Nat.lt_or_ge i c.utf8Size with hlt | hge
    · rw [behindBreaks]
      omega
    · rw [byteLength_cons] at h
      have hrest := ih (i := i - c.utf8Size) (by omega)
      rw [take_bytes_of_le hge, List.count_append, behindBreaks]
      by_cases hbreak : c = '\n'
      · subst hbreak
        have hbytes : String.utf8EncodeChar '\n' = [breakByte] := rfl
        rw [if_pos rfl, hbytes, List.count_singleton_self, Nat.add_comm 1]
        omega
      · have hfree : breakByte ∉ String.utf8EncodeChar c := mt breakByte_mem_iff.mp hbreak
        rw [if_neg hbreak, List.count_eq_zero.mpr hfree, Nat.zero_add]
        omega

/-- Of two lines, the one that comes first ends where the other starts, or before. -/
theorem OnLine.le {text : List Char} {m n i : Nat} (h : OnLine text m i) (h' : OnLine text n i) :
    m ≤ n := by
  by_contra hlt
  have hmono : lineStart text (n + 1) ≤ lineStart text m := lineStart_mono (Nat.lt_of_not_le hlt)
  have hstart := h.1
  have hstop := h'.2
  omega

/-- **A byte stands on the line behind as many line breaks as stand before it**, and on no other
line. -/
theorem onLine_iff {text : List Char} {i : Nat} (h : i < byteLength text) (number : Nat) :
    OnLine text number i ↔ number = ((bytes text).take i).count breakByte := by
  have hown : OnLine text (((bytes text).take i).count breakByte) i := by
    have hsum := behindBreaks_add_columnBehind h.le
    have hlt := lt_behindBreaks h
    rw [behindBreaks_eq_lineStart] at hsum hlt
    exact ⟨by omega, hlt⟩
  constructor
  · intro hother
    exact Nat.le_antisymm (hother.le hown) (hown.le hother)
  · rintro rfl
    exact hown

/-! ## 4. Offsets -/

theorem offsetOf?_line (text : List Char) (number column : Nat) :
    offsetOf? text (number + 1) column
      = if lineStart text number + (column - 1) < byteLength text then
          some (lineStart text number + (column - 1))
        else none := by
  rw [offsetOf?, if_neg (Nat.succ_ne_zero number), Nat.add_sub_cancel, behindBreaks_eq_lineStart]

/-- **Lines and columns as offsets, and back.**  The lines make up the text.  Every byte stands on
one line, whose number is how many line breaks stand before the byte, and it is the offset of that
line and of its column.  Lines count from one there, so line zero has no offset.  And the offset of
a line and a column is on the line, as long as the column is no larger than the length of the line
with its line break. -/
theorem offsets_on_lines (text : List Char) :
    (brokenLines text).flatten = text ∧
    (∀ i < byteLength text,
      let number := ((bytes text).take i).count breakByte
      (∀ other, OnLine text other i ↔ other = number) ∧
        offsetOf? text (1 + number) (1 + i - lineStart text number) = some i) ∧
    (∀ column, offsetOf? text 0 column = none) ∧
    ∀ number line column offset, (brokenLines text)[number]? = some line →
      column ≤ byteLength line → offsetOf? text (number + 1) column = some offset →
        OnLine text number offset := by
  refine ⟨flatten_brokenLines text, ?_, offsetOf?_line_zero text, ?_⟩
  · intro i hi number
    have hstart := ((onLine_iff hi number).mpr rfl).1
    have hplace : lineStart text number + (1 + i - lineStart text number - 1) = i := by omega
    refine ⟨onLine_iff hi, ?_⟩
    rw [Nat.add_comm 1, offsetOf?_line, hplace, if_pos hi]
  · intro number line column offset hline hcolumn hoffset
    have hsucc := lineStart_succ hline
    -- column zero stands for the first one, which every line has
    have hpos : 0 < byteLength line := by
      obtain ⟨c, cs, rfl⟩ := List.exists_cons_of_ne_nil
        (ne_nil_of_mem_brokenLines (List.mem_of_getElem? hline))
      have := c.utf8Size_pos
      rw [byteLength_cons]
      omega
    rw [offsetOf?_line] at hoffset
    split at hoffset
    · cases hoffset
      exact ⟨Nat.le_add_right _ _, by omega⟩
    · cases hoffset

/-- A text with an empty line, longer characters and a last line without a line break. -/
def verse : String := "où\n\nété,\nla"

theorem offsets_on_lines_verse :
    6 < byteLength verse.toList ∧ ((bytes verse.toList).take 6).count breakByte = 2 ∧
      lineStart verse.toList 2 = 5 ∧ OnLine verse.toList 2 6 ∧
      offsetOf? verse.toList 3 2 = some 6 ∧
      (brokenLines verse.toList)[1]? = some ['\n'] ∧ 1 ≤ byteLength ['\n'] ∧
      offsetOf? verse.toList 2 1 = some 4 ∧ OnLine verse.toList 1 4 ∧
      offsetOf? verse.toList 0 1 = none := by
  obtain ⟨-, hbytes, hzero, hlines⟩ := offsets_on_lines verse.toList
  have hlength : 6 < byteLength verse.toList := by decide
  have hcount : ((bytes verse.toList).take 6).count breakByte = 2 := by decide
  have hline : (brokenLines verse.toList)[1]? = some ['\n'] := by decide
  have hoffset : offsetOf? verse.toList 2 1 = some 4 := by decide
  obtain ⟨honly, hback⟩ := hbytes 6 hlength
  exact ⟨hlength, hcount, by decide, (honly 2).mpr hcount.symm, hback, hline, by decide, hoffset,
    hlines 1 _ 1 4 hline (by decide) hoffset, hzero 1⟩

end SchemaClass.Text
