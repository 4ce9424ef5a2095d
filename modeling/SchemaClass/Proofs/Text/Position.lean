import Mathlib.Data.List.TakeWhile
import SchemaClass.Text.Position
/-!
# Places by bytes

Lines and columns are counted on bytes, and a line break is a byte of its own: no other character
has that byte in its form.  So the line and the column behind the first bytes of a text are counted
on those bytes alone, and the offset that they are turned back into is known for every number of
bytes: the start of the line and the column make up what has been read.

* `bytes`, `lineBehind`, `columnBehind`: the bytes of a text, and what bytes that have been read
  lead to;
* `lineColumn_eq`: line and column behind the first bytes of a text;
* `behindBreaks_add_columnBehind`: the start of a line, and the column on it;
* `offsetOf?_lineColumn`: the offset of the place behind the first bytes;
* `sliceBytes?_append`: what stands between two parts of a text.
-/

namespace SchemaClass.Text

/-! ## 1. Bytes -/

/-- The bytes of a text. -/
def bytes (text : List Char) : List UInt8 := text.flatMap String.utf8EncodeChar

/-- The byte of a line break. -/
def breakByte : UInt8 := 10

/-- The line that bytes lead to, where lines count from one. -/
def lineBehind (read : List UInt8) : Nat := 1 + read.count breakByte

/-- The column that bytes lead to: how many of them stand behind the last line break. -/
def columnBehind (read : List UInt8) : Nat :=
  (read.reverse.takeWhile (· != breakByte)).length

@[simp] theorem bytes_nil : bytes [] = [] := rfl

theorem bytes_cons (c : Char) (cs : List Char) :
    bytes (c :: cs) = String.utf8EncodeChar c ++ bytes cs := rfl

@[simp] theorem length_bytes (text : List Char) : (bytes text).length = byteLength text := by
  induction text with
  | nil => rfl
  | cons c cs ih =>
    rw [bytes_cons, List.length_append, ih, String.length_utf8EncodeChar, byteLength_cons]

/-- The bytes of a character that is not ASCII are not ASCII either. -/
theorem le_of_mem_utf8EncodeChar {c : Char} (h : 127 < c.val.toNat) :
    ∀ b ∈ String.utf8EncodeChar c, 128 ≤ b.toNat := by
  rw [String.utf8EncodeChar, if_neg (Nat.not_le.mpr h)]
  simp only [apply_ite (fun l : List UInt8 => ∀ b ∈ l, 128 ≤ b.toNat), List.forall_mem_cons,
    List.not_mem_nil, false_implies, implies_true, and_true, UInt8.toNat_ofNat']
  split_ifs <;> omega

/-- **Only a line break has the byte of one.** -/
theorem breakByte_mem_iff {c : Char} : breakByte ∈ String.utf8EncodeChar c ↔ c = '\n' := by
  constructor
  · intro h
    rcases Nat.lt_or_ge 127 c.val.toNat with hlarge | hascii
    · exact absurd (le_of_mem_utf8EncodeChar hlarge _ h) (by decide)
    · rw [String.utf8EncodeChar, if_pos hascii] at h
      have hn : breakByte.toNat = c.val.toNat % 256 :=
        congrArg UInt8.toNat (List.mem_singleton.mp h)
      rw [Nat.mod_eq_of_lt (Nat.lt_of_le_of_lt hascii (by decide))] at hn
      exact Char.ext (UInt32.toNat_inj.mp hn.symm)
  · rintro rfl
    exact List.mem_singleton_self breakByte

/-! ## 2. What bytes lead to -/

section Behind

variable {read more : List UInt8}

theorem lineBehind_of_notMem (h : breakByte ∉ more) :
    lineBehind (read ++ more) = lineBehind read := by
  rw [lineBehind, List.count_append, List.count_eq_zero.mpr h, Nat.add_zero, lineBehind]

theorem lineBehind_break (read : List UInt8) :
    lineBehind (read ++ [breakByte]) = lineBehind read + 1 := by
  rw [lineBehind, List.count_append, List.count_singleton_self, lineBehind, Nat.add_assoc]

theorem columnBehind_of_notMem (h : breakByte ∉ more) :
    columnBehind (read ++ more) = columnBehind read + more.length := by
  have hpass : ∀ b ∈ more.reverse, (b != breakByte) = true := by
    intro b hb
    exact bne_iff_ne.mpr fun he => h (he ▸ List.mem_reverse.mp hb)
  rw [columnBehind, List.reverse_append, List.takeWhile_append_of_pos hpass, List.length_append,
    List.length_reverse, Nat.add_comm, columnBehind]

/-- What stands before a line break does not count. -/
theorem columnBehind_of_mem (h : breakByte ∈ more) :
    columnBehind (read ++ more) = columnBehind more := by
  have hstop : (more.reverse.takeWhile (· != breakByte)).length ≠ more.reverse.length := by
    intro hall
    have hself := (List.takeWhile_sublist (· != breakByte)).eq_of_length hall
    have hbreak := List.takeWhile_eq_self_iff.mp hself breakByte (List.mem_reverse.mpr h)
    exact absurd rfl (bne_iff_ne.mp hbreak)
  rw [columnBehind, List.reverse_append, List.takeWhile_append, if_neg hstop, columnBehind]

theorem columnBehind_break (read : List UInt8) : columnBehind (read ++ [breakByte]) = 0 :=
  columnBehind_of_mem (List.mem_singleton_self breakByte)

theorem columnBehind_eq_length (h : breakByte ∉ more) : columnBehind more = more.length := by
  have hcolumn : columnBehind ([] ++ more) = columnBehind [] + more.length :=
    columnBehind_of_notMem h
  rwa [List.nil_append, show columnBehind [] = 0 from rfl, Nat.zero_add] at hcolumn

theorem columnBehind_break_append (more : List UInt8) :
    columnBehind ([breakByte] ++ more) = columnBehind more := by
  by_cases h : breakByte ∈ more
  · exact columnBehind_of_mem h
  · rw [columnBehind_of_notMem h, columnBehind_eq_length h]
    exact Nat.zero_add _

/-- The column is zero right behind a line break, and nowhere else once something has been read. -/
theorem columnBehind_eq_zero_iff (h : read ≠ []) :
    columnBehind read = 0 ↔ read.getLast? = some breakByte := by
  obtain ⟨front, b, rfl⟩ := (List.eq_nil_or_concat read).resolve_left h
  rw [List.concat_eq_append, List.getLast?_concat]
  by_cases hb : b = breakByte
  · subst hb
    simp [columnBehind_break]
  · have hnot : breakByte ∉ [b] := fun hmem => hb (List.mem_singleton.mp hmem).symm
    rw [columnBehind_of_notMem hnot]
    simp [hb]

end Behind

/-! ## 3. Places -/

/-- A character that is cut off has no line break in what is left of it. -/
theorem break_notMem_take {n : Nat} {c : Char} (h : n < c.utf8Size) :
    breakByte ∉ (String.utf8EncodeChar c).take n := by
  intro hmem
  have hc := breakByte_mem_iff.mp (List.mem_of_mem_take hmem)
  subst hc
  have hn : n = 0 := Nat.lt_one_iff.mp h
  subst hn
  exact List.not_mem_nil hmem

theorem take_bytes_of_lt {n : Nat} {c : Char} (h : n < c.utf8Size) (cs : List Char) :
    (bytes (c :: cs)).take n = (String.utf8EncodeChar c).take n := by
  rw [bytes_cons, List.take_append_of_le_length]
  rw [String.length_utf8EncodeChar]
  exact Nat.le_of_lt h

theorem take_bytes_of_le {n : Nat} {c : Char} (h : c.utf8Size ≤ n) (cs : List Char) :
    (bytes (c :: cs)).take n
      = String.utf8EncodeChar c ++ (bytes cs).take (n - c.utf8Size) := by
  rw [bytes_cons, List.take_append, String.length_utf8EncodeChar, List.take_of_length_le]
  rw [String.length_utf8EncodeChar]
  exact h

theorem length_take_utf8EncodeChar {n : Nat} {c : Char} (h : n < c.utf8Size) :
    ((String.utf8EncodeChar c).take n).length = n := by
  rw [List.length_take, String.length_utf8EncodeChar, Nat.min_eq_left (Nat.le_of_lt h)]

/-- Line and column go on from what has been read. -/
theorem advance_eq (read : List UInt8) (n : Nat) (cs : List Char) :
    advance (lineBehind read) (columnBehind read) n cs
      = (lineBehind (read ++ (bytes cs).take n), columnBehind (read ++ (bytes cs).take n)) := by
  induction cs generalizing read n with
  | nil => cases n <;> simp [advance]
  | cons c cs ih =>
    cases n with
    | zero => simp [advance]
    | succ n =>
      rw [advance]
      split
      · next hbreak =>
        subst hbreak
        have hnext := ih (read ++ [breakByte]) n
        rw [columnBehind_break, lineBehind_break, List.append_assoc] at hnext
        exact hnext
      · next hbreak =>
        have hfree : breakByte ∉ String.utf8EncodeChar c := mt breakByte_mem_iff.mp hbreak
        split
        · next hlt =>
          have hcut := break_notMem_take hlt
          rw [take_bytes_of_lt hlt, lineBehind_of_notMem hcut, columnBehind_of_notMem hcut,
            length_take_utf8EncodeChar hlt]
        · next hge =>
          have hnext := ih (read ++ String.utf8EncodeChar c) (n + 1 - c.utf8Size)
          rw [columnBehind_of_notMem hfree, lineBehind_of_notMem hfree,
            String.length_utf8EncodeChar, List.append_assoc] at hnext
          rw [take_bytes_of_le (Nat.not_lt.mp hge)]
          exact hnext

/-- **Line and column behind the first bytes of a text** are counted on those bytes. -/
theorem lineColumn_eq (text : List Char) (n : Nat) :
    lineColumn text n
      = (lineBehind ((bytes text).take n), columnBehind ((bytes text).take n)) :=
  advance_eq [] n text

/-- **The start of the line and the column make up what has been read.** -/
theorem behindBreaks_add_columnBehind {text : List Char} {n : Nat} (h : n ≤ byteLength text) :
    behindBreaks (((bytes text).take n).count breakByte) text
      + columnBehind ((bytes text).take n) = n := by
  induction text generalizing n with
  | nil =>
    have hn : n = 0 := Nat.le_zero.mp h
    subst hn
    rfl
  | cons c cs ih =>
    rcases Nat.lt_or_ge n c.utf8Size with hlt | hge
    · have hcut := break_notMem_take hlt
      rw [take_bytes_of_lt hlt, List.count_eq_zero.mpr hcut, columnBehind_eq_length hcut,
        length_take_utf8EncodeChar hlt, behindBreaks, Nat.zero_add]
    · rw [byteLength_cons] at h
      have hrest := ih (n := n - c.utf8Size) (by omega)
      rw [take_bytes_of_le hge, List.count_append]
      by_cases hbreak : c = '\n'
      · subst hbreak
        have hbytes : String.utf8EncodeChar '\n' = [breakByte] := rfl
        rw [hbytes, columnBehind_break_append, List.count_singleton_self, Nat.add_comm 1,
          behindBreaks, if_pos rfl, Nat.add_assoc, hrest]
        omega
      · have hfree : breakByte ∉ String.utf8EncodeChar c := mt breakByte_mem_iff.mp hbreak
        rw [List.count_eq_zero.mpr hfree, Nat.zero_add]
        -- either the line goes on from the start of the text, or it begins behind `c`
        by_cases hmore : breakByte ∈ (bytes cs).take (n - c.utf8Size)
        · have hcount := List.count_pos_iff.mpr hmore
          obtain ⟨k, hk⟩ := Nat.exists_eq_succ_of_ne_zero (Nat.ne_of_gt hcount)
          rw [hk] at hrest ⊢
          rw [columnBehind_of_mem hmore, behindBreaks, if_neg hbreak, Nat.add_assoc, hrest]
          omega
        · rw [List.count_eq_zero.mpr hmore, columnBehind_eq_length hmore, behindBreaks] at hrest
          rw [List.count_eq_zero.mpr hmore, columnBehind_of_notMem hmore,
            columnBehind_eq_length hfree, String.length_utf8EncodeChar, behindBreaks]
          omega

/-- **The offset of the place behind the first bytes** is that of the last of them, or of what
follows if it is a line break.  There is none if nothing follows. -/
theorem offsetOf?_lineColumn {text : List Char} {n : Nat} (h₀ : 0 < n) (h : n ≤ byteLength text) :
    offsetOf? text (lineColumn text n).1 (lineColumn text n).2
      = if ((bytes text).take n).getLast? = some breakByte then
          if n < byteLength text then some n else none
        else some (n - 1) := by
  have hread : (bytes text).take n ≠ [] := by
    rw [← List.length_pos_iff, List.length_take, length_bytes]
    omega
  have hline : lineBehind ((bytes text).take n) ≠ 0 := by
    rw [lineBehind]
    omega
  have hstart : lineBehind ((bytes text).take n) - 1 = ((bytes text).take n).count breakByte :=
    Nat.add_sub_cancel_left 1 _
  have hsum := behindBreaks_add_columnBehind h
  rw [lineColumn_eq, offsetOf?, if_neg hline, hstart]
  by_cases hbreak : ((bytes text).take n).getLast? = some breakByte
  · rw [if_pos hbreak]
    rw [(columnBehind_eq_zero_iff hread).mpr hbreak, Nat.add_zero] at hsum
    rw [(columnBehind_eq_zero_iff hread).mpr hbreak, hsum]
    rfl
  · have hcolumn := mt (columnBehind_eq_zero_iff hread).mp hbreak
    rw [if_neg hbreak]
    dsimp only
    rw [if_pos (by omega)]
    congr 1
    omega

/-! ## 4. Stretches -/

theorem dropBytes?_append (front text : List Char) :
    dropBytes? (byteLength front) (front ++ text) = some text := by
  induction front with
  | nil => rw [byteLength_nil, dropBytes?, List.nil_append]
  | cons c front ih =>
    obtain ⟨n, hn⟩ := Nat.exists_eq_add_one.mpr c.utf8Size_pos
    have hlength : byteLength (c :: front) = n + byteLength front + 1 := by
      rw [byteLength_cons, hn, Nat.add_right_comm]
    rw [hlength, List.cons_append, dropBytes?, if_neg (by omega), ← ih]
    congr 1
    omega

theorem takeBytes?_append (front text : List Char) :
    takeBytes? (byteLength front) (front ++ text) = some front := by
  induction front with
  | nil => rw [byteLength_nil, takeBytes?]
  | cons c front ih =>
    obtain ⟨n, hn⟩ := Nat.exists_eq_add_one.mpr c.utf8Size_pos
    have hlength : byteLength (c :: front) = n + byteLength front + 1 := by
      rw [byteLength_cons, hn, Nat.add_right_comm]
    have hrest : n + byteLength front + 1 - c.utf8Size = byteLength front := by omega
    rw [hlength, List.cons_append, takeBytes?, if_neg (by omega), hrest, ih, Option.map_some]

/-- What stands between two parts of a text ends in the text. -/
theorem byteLength_add_le (front middle behind : List Char) :
    byteLength front + byteLength middle ≤ byteLength (front ++ (middle ++ behind)) := by
  rw [byteLength_append front, byteLength_append middle]
  omega

/-- **What stands between two parts of a text.** -/
theorem sliceBytes?_append (front middle behind : List Char) :
    sliceBytes? (byteLength front) (byteLength front + byteLength middle)
      (front ++ (middle ++ behind)) = some middle := by
  rw [sliceBytes?, dropBytes?_append, Nat.add_sub_cancel_left]
  exact takeBytes?_append middle behind

end SchemaClass.Text
