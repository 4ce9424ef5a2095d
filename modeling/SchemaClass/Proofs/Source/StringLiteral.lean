import SchemaClass.Source.Decorator
import SchemaClass.Text.Cursor
/-!
# Reading string literals

The value of a string literal is a list of code units, of which a character has one or two.  It is
read from the text behind the opening quote, piece by piece: a character other than a quote, a
backslash and a line end stands for itself, and a backslash begins an escape.  No text is shorter
than the value that it spells, and where both are of one length there is no escape.

* `units`: the code units of a text;
* `readPiece?`, `readLiteral?`: the reader of a literal;
* `Spells`: what is common to all that spells a value;
* `readLiteral?_escape`: a text whose quotes and backslashes are marked is read back;
* `exists_of_readLiteral?`: what the reader has passed.
-/

namespace SchemaClass.Source

open Text (hexValue?)

/-! ## 1. Code units -/

/-- The code units of a code point: itself, or two surrogates. -/
def pointUnits (n : Nat) : List Nat :=
  if n < 0x10000 then [n]
  else [0xD800 + (n - 0x10000) / 0x400, 0xDC00 + (n - 0x10000) % 0x400]

/-- The code units of a text. -/
def units (text : List Char) : List Nat := text.flatMap fun c => pointUnits c.toNat

@[simp] theorem units_nil : units [] = [] := rfl

@[simp] theorem units_cons (c : Char) (text : List Char) :
    units (c :: text) = pointUnits c.toNat ++ units text := List.flatMap_cons

@[simp] theorem units_append (text more : List Char) :
    units (text ++ more) = units text ++ units more := List.flatMap_append

theorem length_pointUnits_pos (n : Nat) : 0 < (pointUnits n).length := by
  rw [pointUnits]
  split <;> exact Nat.succ_pos _

theorem length_pointUnits_le (n : Nat) : (pointUnits n).length ≤ 2 := by
  rw [pointUnits]
  split <;> simp

theorem length_le_length_units (text : List Char) : text.length ≤ (units text).length := by
  induction text with
  | nil => exact Nat.le_refl 0
  | cons c text ih =>
    have hpos : 0 < (pointUnits c.toNat).length := length_pointUnits_pos _
    rw [units_cons, List.length_append, List.length_cons]
    omega

/-! ## 2. The reader -/

/-- Characters that stand for themselves in a literal. -/
def IsVerbatim (c : Char) : Prop := c ≠ '"' ∧ c ≠ '\\' ∧ c ≠ '\n' ∧ c ≠ '\r'

instance (c : Char) : Decidable (IsVerbatim c) :=
  inferInstanceAs (Decidable (_ ∧ _))

/-- The number that hexadecimal digits spell. -/
def hexNumber? (digits : List Char) : Option Nat :=
  digits.foldlM (fun n c => (hexValue? c).map (n * 16 + ·)) 0

/-- Reads a code unit that is spelled by so many digits. -/
def readDigits? (count : Nat) (text : List Char) : Option (List Nat × List Char) :=
  if text.length < count then none
  else (hexNumber? (text.take count)).map fun n => ([n], text.drop count)

/-- Reads a code point that is spelled by digits before a brace. -/
def readBraced? (text : List Char) : Option (List Nat × List Char) :=
  match text.dropWhile (· != '\x7d') with
  | [] => none
  | _ :: rest => do
    let digits := text.takeWhile (· != '\x7d')
    let n ← hexNumber? digits
    if digits = [] ∨ 0x10FFFF < n then none else some (pointUnits n, rest)

/-- What a character behind a backslash stands for, if it begins no longer escape. -/
def escaped (c : Char) : Char :=
  match c with
  | 'b' => '\x08'
  | 't' => '\t'
  | 'n' => '\n'
  | 'v' => '\x0b'
  | 'f' => '\x0c'
  | 'r' => '\r'
  | c => c

/-- The characters that end a line of a source text. -/
def isLineEnd (c : Char) : Bool := c == '\n' || c == '\r' || c == '\u2028' || c == '\u2029'

/-- Reads an escape behind its backslash.  A line end is passed, and the only digit is a zero that
stands alone. -/
def readEscape? : List Char → Option (List Nat × List Char)
  | [] => none
  | c :: rest =>
    if c = 'x' then readDigits? 2 rest
    else if c = 'u' then
      if rest.head? = some '\x7b' then readBraced? rest.tail else readDigits? 4 rest
    else if c.isDigit then
      if c ≠ '0' ∨ rest.head?.any Char.isDigit then none else some ([0], rest)
    else if isLineEnd c then
      some ([], if c = '\r' ∧ rest.head? = some '\n' then rest.tail else rest)
    else some (pointUnits (escaped c).toNat, rest)

/-- Reads a character or an escape. -/
def readPiece? : List Char → Option (List Nat × List Char)
  | [] => none
  | c :: rest =>
    if c = '\\' then readEscape? rest
    else if IsVerbatim c then some (pointUnits c.toNat, rest) else none

/-! ## 3. Spellings -/

/-- What is common to all that spells a value: it is no shorter than the value, and longer unless
all its characters stand for themselves. -/
structure Spells (text : List Char) (value : List Nat) : Prop where
  length_le : value.length ≤ (units text).length
  verbatim_of_eq : value.length = (units text).length → ∀ c ∈ text, IsVerbatim c

theorem Spells.nil : Spells [] [] := ⟨Nat.le_refl 0, fun _ => List.forall_mem_nil _⟩

theorem Spells.of_verbatim {c : Char} (h : IsVerbatim c) : Spells [c] (pointUnits c.toNat) :=
  ⟨by simp, fun _ => List.forall_mem_singleton.mpr h⟩

theorem Spells.append {text more : List Char} {value next : List Nat} (h : Spells text value)
    (hmore : Spells more next) : Spells (text ++ more) (value ++ next) := by
  have hle : value.length ≤ (units text).length := h.length_le
  have hmorele : next.length ≤ (units more).length := hmore.length_le
  refine ⟨?_, fun heq => List.forall_mem_append.mpr ⟨h.verbatim_of_eq ?_, hmore.verbatim_of_eq ?_⟩⟩
  all_goals simp only [units_append, List.length_append] at *
  all_goals omega

/-- An escape is longer than its value if what stands behind the backslash is as long. -/
theorem Spells.of_escape {text : List Char} {value : List Nat}
    (h : value.length ≤ (units text).length) : Spells ('\\' :: text) value := by
  have hlt : value.length < (units ('\\' :: text)).length := by
    rw [units_cons, List.length_append]
    have hpos : 0 < (pointUnits '\\'.toNat).length := length_pointUnits_pos _
    omega
  exact ⟨Nat.le_of_lt hlt, fun heq => absurd heq (Nat.ne_of_lt hlt)⟩

/-! ## 4. What has been passed -/

variable {text rest : List Char} {value : List Nat}

theorem exists_of_readDigits? {count : Nat} (h : readDigits? count text = some (value, rest)) :
    ∃ spelled, text = spelled ++ rest ∧ value.length = 1 := by
  rw [readDigits?] at h
  split at h
  · cases h
  · obtain ⟨n, -, hn⟩ := Option.map_eq_some_iff.mp h
    cases hn
    exact ⟨text.take count, (List.take_append_drop _ _).symm, rfl⟩

theorem exists_of_readBraced? (h : readBraced? text = some (value, rest)) :
    ∃ spelled, text = spelled ++ rest ∧ 0 < spelled.length ∧ value.length ≤ 2 := by
  rw [readBraced?] at h
  split at h
  · cases h
  · next brace behind hbehind =>
    obtain ⟨n, -, hn⟩ := Option.bind_eq_some_iff.mp h
    split at hn
    · cases hn
    · cases hn
      refine ⟨text.takeWhile (· != '\x7d') ++ [brace], ?_, by simp, length_pointUnits_le n⟩
      rw [List.append_assoc, List.singleton_append, ← hbehind, List.takeWhile_append_dropWhile]

theorem length_escaped (c : Char) :
    (pointUnits (escaped c).toNat).length = (pointUnits c.toNat).length := by
  unfold escaped
  split <;> rfl

theorem exists_of_readEscape? (h : readEscape? text = some (value, rest)) :
    ∃ spelled, text = spelled ++ rest ∧ value.length ≤ (units spelled).length := by
  have hunits (c : Char) (cs : List Char) {n : Nat} (hn : n ≤ cs.length + 1) :
      n ≤ (units (c :: cs)).length := Nat.le_trans hn (length_le_length_units (c :: cs))
  cases text with
  | nil => cases h
  | cons c text =>
    rw [readEscape?] at h
    split at h
    · obtain ⟨spelled, rfl, hvalue⟩ := exists_of_readDigits? h
      exact ⟨c :: spelled, rfl, hunits c spelled (by omega)⟩
    split at h
    · split at h
      · next hbrace =>
        obtain ⟨tail, rfl⟩ := List.head?_eq_some_iff.mp hbrace
        obtain ⟨spelled, htail, hspelled, hvalue⟩ := exists_of_readBraced? h
        refine ⟨c :: '\x7b' :: spelled, congrArg (c :: '\x7b' :: ·) htail, hunits c _ ?_⟩
        rw [List.length_cons]
        omega
      · obtain ⟨spelled, rfl, hvalue⟩ := exists_of_readDigits? h
        exact ⟨c :: spelled, rfl, hunits c spelled (by omega)⟩
    split at h
    · split at h
      · cases h
      · cases h
        exact ⟨[c], rfl, hunits c [] (Nat.le_refl 1)⟩
    split at h
    · cases h
      split
      · next hends =>
        obtain ⟨tail, rfl⟩ := List.head?_eq_some_iff.mp hends.2
        exact ⟨[c, '\n'], rfl, Nat.zero_le _⟩
      · exact ⟨[c], rfl, Nat.zero_le _⟩
    · cases h
      exact ⟨[c], rfl, by simp [length_escaped]⟩

/-- **A piece spells its value.** -/
theorem exists_of_readPiece? (h : readPiece? text = some (value, rest)) :
    ∃ spelled, text = spelled ++ rest ∧ spelled ≠ [] ∧ Spells spelled value := by
  cases text with
  | nil => cases h
  | cons c text =>
    rw [readPiece?] at h
    split at h
    · next hescape =>
      obtain ⟨spelled, rfl, hvalue⟩ := exists_of_readEscape? h
      exact ⟨c :: spelled, rfl, List.cons_ne_nil c _, hescape ▸ Spells.of_escape hvalue⟩
    split at h
    · next hverbatim =>
      cases h
      exact ⟨[c], rfl, List.cons_ne_nil c _, Spells.of_verbatim hverbatim⟩
    · cases h

theorem length_lt_of_readPiece? (h : readPiece? text = some (value, rest)) :
    rest.length < text.length := by
  obtain ⟨spelled, rfl, hspelled, -⟩ := exists_of_readPiece? h
  have hpos : 0 < spelled.length := List.length_pos_iff.mpr hspelled
  rw [List.length_append]
  omega

/-! ## 5. Literals -/

/-- The value of a literal and what stands behind it.  The text begins behind the opening quote. -/
def readLiteral? (text : List Char) : Option (List Nat × List Char) :=
  if text.head? = some '"' then some ([], text.tail)
  else
    match h : readPiece? text with
    | none => none
    | some (value, rest) =>
      have := length_lt_of_readPiece? h
      (readLiteral? rest).map fun (more, behind) => (value ++ more, behind)
termination_by text.length

theorem readLiteral?_quote (rest : List Char) : readLiteral? ('"' :: rest) = some ([], rest) := by
  rw [readLiteral?]
  exact if_pos rfl

theorem readLiteral?_of_piece (h : readPiece? text = some (value, rest)) :
    readLiteral? text
      = (readLiteral? rest).map fun (more, behind) => (value ++ more, behind) := by
  have hquote : text.head? ≠ some '"' := by
    intro hhead
    obtain ⟨tail, rfl⟩ := List.head?_eq_some_iff.mp hhead
    cases h
  rw [readLiteral?, if_neg hquote]
  split
  · next hnone => exact absurd (hnone.symm.trans h) nofun
  · next hsome =>
    cases hsome.symm.trans h
    rfl

/-- **What the reader has passed** spells the value, up to a quote. -/
theorem exists_of_readLiteral? (h : readLiteral? text = some (value, rest)) :
    ∃ body, text = body ++ '"' :: rest ∧ Spells body value := by
  fun_induction readLiteral? text generalizing value with
  | case1 text hquote =>
    obtain ⟨tail, rfl⟩ := List.head?_eq_some_iff.mp hquote
    cases h
    exact ⟨[], rfl, Spells.nil⟩
  | case2 => cases h
  | case3 text hquote first behind hpiece hlt ih =>
    obtain ⟨⟨more, end'⟩, hmore, he⟩ := Option.map_eq_some_iff.mp h
    cases he
    obtain ⟨spelled, rfl, -, hspelled⟩ := exists_of_readPiece? hpiece
    obtain ⟨body, rfl, hbody⟩ := ih hmore
    exact ⟨spelled ++ body, (List.append_assoc _ _ _).symm, hspelled.append hbody⟩

theorem escape_cons {c : Char} (hquote : c ≠ '"') (hbackslash : c ≠ '\\') (text : List Char) :
    escape (c :: text) = c :: escape text := by
  simp [escape, hquote, hbackslash]

/-- **A text whose quotes and backslashes are marked is read back**, unless it has a line end. -/
theorem readLiteral?_escape (h : ∀ c ∈ text, c ≠ '\n' ∧ c ≠ '\r') (rest : List Char) :
    readLiteral? (escape text ++ '"' :: rest) = some (units text, rest) := by
  induction text with
  | nil => exact readLiteral?_quote rest
  | cons c text ih =>
    have hpiece : readPiece? (escape (c :: text) ++ '"' :: rest)
        = some (pointUnits c.toNat, escape text ++ '"' :: rest) := by
      by_cases hquote : c = '"'
      · subst hquote
        rfl
      by_cases hbackslash : c = '\\'
      · subst hbackslash
        rfl
      rw [escape_cons hquote hbackslash, List.cons_append, readPiece?, if_neg hbackslash,
        if_pos ⟨hquote, hbackslash, h c List.mem_cons_self⟩]
    rw [readLiteral?_of_piece hpiece, ih fun d hd => h d (List.mem_cons_of_mem c hd)]
    rfl

theorem escape_of_verbatim (h : ∀ c ∈ text, IsVerbatim c) : escape text = text := by
  induction text with
  | nil => rfl
  | cons c text ih =>
    obtain ⟨hquote, hbackslash, -⟩ := h c List.mem_cons_self
    rw [escape_cons hquote hbackslash, ih fun d hd => h d (List.mem_cons_of_mem c hd)]

/-- A text whose characters stand for themselves is read back. -/
theorem readLiteral?_verbatim (h : ∀ c ∈ text, IsVerbatim c) (rest : List Char) :
    readLiteral? (text ++ '"' :: rest) = some (units text, rest) := by
  have hread := readLiteral?_escape (fun c hc => (h c hc).2.2) rest
  rwa [escape_of_verbatim h] at hread

end SchemaClass.Source
