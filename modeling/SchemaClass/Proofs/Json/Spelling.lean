import SchemaClass.Json.Skip
import SchemaClass.Proofs.Outcome
/-!
# Spellings of tokens

One value may be spelled in many ways: blanks may stand between its tokens, and a character of a
string may be written as it is, by a short escape or by its number.  Here is the grammar of strings
and numbers, apart from any reader, and what the readers make of it.

* `Spells`: a text between quotes and the characters that it stands for;
* `IsChars`, `IsNumber`: any string, which may name halves of surrogate pairs, and any number;
* `readString_spelled`: a spelled string is read as what it stands for;
* `passString_spelled`, `passNumber_spelled`: strings and numbers that nobody asks for are passed.
-/

namespace SchemaClass.Json

open Outcome
open Text (Cursor hexValue?)

/-! ## 1. Blanks -/

/-- Blanks between two tokens. -/
structure Blanks where
  text : List Char
  blank : ∀ x ∈ text, isBlank x = true

/-- No blank at all. -/
def Blanks.none : Blanks := ⟨[], fun _ h => absurd h List.not_mem_nil⟩

theorem skipBlanks_spelled (ws : Blanks) {x : Char} (hx : isBlank x = false) (rest : List Char)
    (n : Nat) : ∃ m, skipBlanks ⟨ws.text ++ x :: rest, n⟩ = ⟨x :: rest, m⟩ := by
  have hrest : (ws.text ++ x :: rest).dropWhile isBlank = x :: rest := by
    rw [List.dropWhile_append_of_pos ws.blank, List.dropWhile_cons, hx, if_neg Bool.false_ne_true]
  exact ⟨_, by rw [skipBlanks, Cursor.skipWhile, hrest]⟩

/-- Behind blanks that end the text nothing is left. -/
theorem skipBlanks_end (ws : Blanks) (n : Nat) : (skipBlanks ⟨ws.text, n⟩).rest = [] := by
  have hrest : (ws.text ++ []).dropWhile isBlank = [] := List.dropWhile_append_of_pos ws.blank
  rw [List.append_nil] at hrest
  exact hrest

theorem skipBlanks_skipBlanks (c : Cursor) : skipBlanks (skipBlanks c) = skipBlanks c := by
  obtain ⟨rest, read⟩ := c
  induction rest generalizing read with
  | nil => rfl
  | cons x rest ih =>
    cases hx : isBlank x with
    | true =>
      have hstep : skipBlanks ⟨x :: rest, read⟩ = skipBlanks ⟨rest, read + x.utf8Size⟩ := by
        simp [skipBlanks, Cursor.skipWhile, hx, Nat.add_assoc]
      rw [hstep, ih]
    | false =>
      have hstay : skipBlanks ⟨x :: rest, read⟩ = ⟨x :: rest, read⟩ := by
        simp [skipBlanks, Cursor.skipWhile, hx]
      rw [hstay, hstay]

theorem word_spelled (ws rest : List Char) (n : Nat) :
    ∃ m, word ws ⟨ws ++ rest, n⟩ = .ok ⟨rest, m⟩ := by
  induction ws generalizing n with
  | nil => exact ⟨n, rfl⟩
  | cons w ws ih =>
    obtain ⟨m, h⟩ := ih (n + w.utf8Size)
    refine ⟨m, ?_⟩
    rw [word]
    exact (if_pos rfl).trans h

/-! ## 2. Strings -/

/-- Characters that a string may hold as they are. -/
def IsPlain (x : Char) : Prop := x ≠ '"' ∧ x ≠ '\\' ∧ 0x20 ≤ x.toNat

instance (x : Char) : Decidable (IsPlain x) :=
  inferInstanceAs (Decidable (x ≠ '"' ∧ x ≠ '\\' ∧ 0x20 ≤ x.toNat))

/-- A text that a string may hold as it is. -/
def ArePlain (xs : List Char) : Prop := ∀ x ∈ xs, IsPlain x

instance (xs : List Char) : Decidable (ArePlain xs) := List.decidableBAll IsPlain xs

/-- A text between quotes that stands for some characters. -/
inductive Spells : (chars text : List Char) → Prop where
  | nil : Spells [] []
  | plain {x : Char} {xs cs : List Char} (h : IsPlain x) (rest : Spells xs cs) :
    Spells (x :: xs) (x :: cs)
  | short {e x : Char} {xs cs : List Char} (h : shortEscape? e = some x) (rest : Spells xs cs) :
    Spells (x :: xs) ('\\' :: e :: cs)
  | number {a b c d x : Char} {xs cs : List Char} (h : hexNumber? a b c d = some x.toNat)
    (rest : Spells xs cs) : Spells (x :: xs) ('\\' :: 'u' :: a :: b :: c :: d :: cs)
  /-- A character above the first plane, by its two surrogates. -/
  | pair {a b c d a' b' c' d' x : Char} {high low : Nat} {xs cs : List Char}
    (hhigh : hexNumber? a b c d = some (0xD800 + high)) (hhigh' : high < 0x400)
    (hlow : hexNumber? a' b' c' d' = some (0xDC00 + low)) (hlow' : low < 0x400)
    (hx : x.toNat = 0x10000 + high * 0x400 + low) (rest : Spells xs cs) :
    Spells (x :: xs)
      ('\\' :: 'u' :: a :: b :: c :: d :: '\\' :: 'u' :: a' :: b' :: c' :: d' :: cs)

/-- Plain characters stand for themselves. -/
theorem spells_plain {xs : List Char} (h : ArePlain xs) : Spells xs xs := by
  induction xs with
  | nil => exact .nil
  | cons x xs ih =>
    rw [ArePlain, List.forall_mem_cons] at h
    exact .plain h.1 (ih h.2)

/-- A text between quotes, whether it stands for characters or not. -/
inductive IsChars : List Char → Prop where
  | nil : IsChars []
  | plain {x : Char} {cs : List Char} (h : IsPlain x) (rest : IsChars cs) : IsChars (x :: cs)
  | short {e : Char} {cs : List Char} (h : (shortEscape? e).isSome = true) (rest : IsChars cs) :
    IsChars ('\\' :: e :: cs)
  | number {a b c d : Char} {n : Nat} {cs : List Char} (h : hexNumber? a b c d = some n)
    (rest : IsChars cs) : IsChars ('\\' :: 'u' :: a :: b :: c :: d :: cs)

theorem hex4_spelled {a b c d : Char} {k : Nat} (h : hexNumber? a b c d = some k)
    (rest : List Char) (n : Nat) : hex4 ⟨a :: b :: c :: d :: rest, n⟩ = .ok (k, ⟨rest, n + 4⟩) := by
  rw [hex4]
  dsimp only
  rw [h]

/-- No character has the number of a surrogate. -/
theorem not_surrogate (x : Char) :
    isLeadingSurrogate x.toNat = false ∧ isTrailingSurrogate x.toNat = false := by
  have hvalid : x.toNat < 0xD800 ∨ 0xDFFF < x.toNat ∧ x.toNat < 0x110000 := x.valid
  rw [isLeadingSurrogate, isTrailingSurrogate, Bool.and_eq_false_iff, Bool.and_eq_false_iff,
    decide_eq_false_iff_not, decide_eq_false_iff_not, decide_eq_false_iff_not,
    decide_eq_false_iff_not]
  omega

theorem unicodeEscape_number {a b c d x : Char} (h : hexNumber? a b c d = some x.toNat)
    (rest : List Char) (n : Nat) :
    unicodeEscape ⟨a :: b :: c :: d :: rest, n⟩ = .ok (x, ⟨rest, n + 4⟩) := by
  obtain ⟨hleading, htrailing⟩ := not_surrogate x
  refine bind_eq_ok.mpr ⟨_, hex4_spelled h rest n, ?_⟩
  dsimp only
  rw [htrailing, hleading, if_neg Bool.false_ne_true, if_neg Bool.false_ne_true, Char.ofNat_toNat]

theorem unicodeEscape_pair {a b c d a' b' c' d' x : Char} {high low : Nat}
    (hhigh : hexNumber? a b c d = some (0xD800 + high)) (hhigh' : high < 0x400)
    (hlow : hexNumber? a' b' c' d' = some (0xDC00 + low)) (hlow' : low < 0x400)
    (hx : x.toNat = 0x10000 + high * 0x400 + low) (rest : List Char) (n : Nat) :
    ∃ m, unicodeEscape ⟨a :: b :: c :: d :: '\\' :: 'u' :: a' :: b' :: c' :: d' :: rest, n⟩
      = .ok (x, ⟨rest, m⟩) := by
  have hfirst : isTrailingSurrogate (0xD800 + high) = false := by
    rw [isTrailingSurrogate, Bool.and_eq_false_iff, decide_eq_false_iff_not]
    omega
  have hleading : isLeadingSurrogate (0xD800 + high) = true := by
    rw [isLeadingSurrogate, Bool.and_eq_true, decide_eq_true_iff, decide_eq_true_iff]
    omega
  have hsecond : isTrailingSurrogate (0xDC00 + low) = true := by
    rw [isTrailingSurrogate, Bool.and_eq_true, decide_eq_true_iff, decide_eq_true_iff]
    omega
  have hnumber : (0xD800 + high - 0xD800) * 0x400 + (0xDC00 + low - 0xDC00) + 0x10000
      = x.toNat := by omega
  have hpair : pairChar (0xD800 + high) (0xDC00 + low) = x := by
    rw [pairChar, hnumber, Char.ofNat_toNat]
  refine ⟨n + 4 + 1 + 1 + 4, bind_eq_ok.mpr ⟨_, hex4_spelled hhigh _ n, ?_⟩⟩
  dsimp only
  rw [hfirst, hleading, if_neg Bool.false_ne_true, if_pos rfl]
  refine bind_eq_ok.mpr ⟨⟨a' :: b' :: c' :: d' :: rest, n + 4 + 1 + 1⟩, rfl, ?_⟩
  refine bind_eq_ok.mpr ⟨_, hex4_spelled hlow _ _, ?_⟩
  dsimp only
  rw [hsecond, if_pos rfl, hpair]

/-! ### Escapes -/

theorem escape_short {e x : Char} (h : shortEscape? e = some x) (rest : List Char) (n : Nat) :
    escape ⟨e :: rest, n⟩ = .ok (x, ⟨rest, n + e.utf8Size⟩) := by
  rw [escape]
  split
  · next heq => cases heq
  · next heq =>
    cases heq
    cases h
  · next heq =>
    cases heq
    rw [h]
    rfl

theorem passEscape_short {e : Char} (h : (shortEscape? e).isSome = true) (rest : List Char)
    (n : Nat) : passEscape ⟨e :: rest, n⟩ = .ok ⟨rest, n + e.utf8Size⟩ := by
  rw [passEscape]
  split
  · next heq => cases heq
  · next heq =>
    cases heq
    cases h
  · next heq =>
    cases heq
    rw [if_pos h]
    rfl

/-! ### Whole strings -/

theorem readChars_quote (rest : List Char) (n : Nat) :
    readChars ⟨'"' :: rest, n⟩ = .ok ([], ⟨rest, n + 1⟩) := by
  rw [readChars]
  rfl

theorem readChars_plain {x : Char} (hx : IsPlain x) {cs ys rest : List Char} {n m : Nat}
    (h : readChars ⟨cs, n + x.utf8Size⟩ = .ok (ys, ⟨rest, m⟩)) :
    readChars ⟨x :: cs, n⟩ = .ok (x :: ys, ⟨rest, m⟩) := by
  have hnext : (⟨x :: cs, n⟩ : Cursor).next = ⟨cs, n + x.utf8Size⟩ := rfl
  rw [readChars]
  split
  · next heq => cases heq
  · next heq =>
    cases heq
    rw [if_neg hx.1, if_neg hx.2.1, if_neg (Nat.not_lt.mpr hx.2.2), hnext, h]

theorem readChars_escape {x : Char} {cs ds ys rest : List Char} {n k m : Nat}
    (hescape : escape ⟨cs, n + 1⟩ = .ok (x, ⟨ds, k⟩))
    (h : readChars ⟨ds, k⟩ = .ok (ys, ⟨rest, m⟩)) :
    readChars ⟨'\\' :: cs, n⟩ = .ok (x :: ys, ⟨rest, m⟩) := by
  rw [readChars]
  split
  · next heq => cases heq
  · next heq =>
    cases heq
    rw [if_neg (by decide), if_pos rfl]
    split
    · next he => cases hescape.symm.trans he
    · next he =>
      cases hescape.symm.trans he
      rw [h]

/-- **A spelled string is read** as the characters that it stands for. -/
theorem readChars_spelled {xs cs : List Char} (h : Spells xs cs) (rest : List Char) (n : Nat) :
    ∃ m, readChars ⟨cs ++ '"' :: rest, n⟩ = .ok (xs, ⟨rest, m⟩) := by
  induction h generalizing n with
  | nil => exact ⟨_, readChars_quote rest n⟩
  | plain hx _ ih =>
    obtain ⟨m, hm⟩ := ih _
    exact ⟨m, readChars_plain hx hm⟩
  | short hx _ ih =>
    obtain ⟨m, hm⟩ := ih _
    exact ⟨m, readChars_escape (escape_short hx _ _) hm⟩
  | number hx _ ih =>
    obtain ⟨m, hm⟩ := ih _
    exact ⟨m, readChars_escape (unicodeEscape_number hx _ _) hm⟩
  | pair hhigh hhigh' hlow hlow' hx _ ih =>
    obtain ⟨k, hk⟩ := unicodeEscape_pair hhigh hhigh' hlow hlow' hx _ (n + 1 + 1)
    obtain ⟨m, hm⟩ := ih k
    exact ⟨m, readChars_escape hk hm⟩

theorem readString_spelled {s : String} {cs : List Char} (h : Spells s.toList cs)
    (rest : List Char) (n : Nat) :
    ∃ m, readString ⟨cs ++ '"' :: rest, n⟩ = .ok (s, ⟨rest, m⟩) := by
  obtain ⟨m, hm⟩ := readChars_spelled h rest n
  exact ⟨m, map_eq_ok.mpr ⟨_, hm, Prod.ext String.ofList_toList rfl⟩⟩

theorem passString_plain {x : Char} (hx : IsPlain x) (cs : List Char) (n : Nat) :
    passString ⟨x :: cs, n⟩ = passString ⟨cs, n + x.utf8Size⟩ := by
  rw [passString]
  split
  · next heq => cases heq
  · next heq =>
    cases heq
    rw [if_neg hx.1, if_neg hx.2.1, if_neg (Nat.not_lt.mpr hx.2.2)]
    rfl

theorem passString_escape {cs : List Char} {n : Nat} {d : Cursor}
    (hescape : passEscape ⟨cs, n + 1⟩ = .ok d) : passString ⟨'\\' :: cs, n⟩ = passString d := by
  rw [passString]
  split
  · next heq => cases heq
  · next heq =>
    cases heq
    rw [if_neg (by decide), if_pos rfl]
    split
    · next he => cases hescape.symm.trans he
    · next he =>
      cases hescape.symm.trans he
      rfl

theorem passString_spelled {cs : List Char} (h : IsChars cs) (rest : List Char) (n : Nat) :
    ∃ m, passString ⟨cs ++ '"' :: rest, n⟩ = .ok ⟨rest, m⟩ := by
  induction h generalizing n with
  | nil =>
    refine ⟨n + 1, ?_⟩
    rw [List.nil_append, passString]
    rfl
  | plain hx _ ih =>
    obtain ⟨m, hm⟩ := ih _
    exact ⟨m, (passString_plain hx _ _).trans hm⟩
  | short hx _ ih =>
    obtain ⟨m, hm⟩ := ih _
    exact ⟨m, (passString_escape (passEscape_short hx _ _)).trans hm⟩
  | number hx _ ih =>
    obtain ⟨m, hm⟩ := ih _
    refine ⟨m, (passString_escape ?_).trans hm⟩
    exact map_eq_ok.mpr ⟨_, hex4_spelled hx _ _, rfl⟩

/-! ## 3. Numbers -/

/-- One digit or more. -/
def AreDigits (cs : List Char) : Prop := cs ≠ [] ∧ ∀ c ∈ cs, c.isDigit = true

/-- The digits before the point: a zero stands alone. -/
inductive IsWhole : List Char → Prop where
  | zero : IsWhole ['0']
  | digits {c : Char} {cs : List Char} (hc : c ≠ '0') (h : AreDigits (c :: cs)) : IsWhole (c :: cs)

/-- The point and the digits behind it, or nothing. -/
inductive IsFraction : List Char → Prop where
  | none : IsFraction []
  | some {cs : List Char} (h : AreDigits cs) : IsFraction ('.' :: cs)

/-- An exponent with or without a sign, or nothing. -/
inductive IsExponent : List Char → Prop where
  | none : IsExponent []
  | some {e : Char} {sign cs : List Char} (he : e = 'e' ∨ e = 'E')
    (hsign : sign = [] ∨ sign = ['+'] ∨ sign = ['-']) (h : AreDigits cs) :
    IsExponent (e :: (sign ++ cs))

/-- A number of any size. -/
inductive IsNumber : List Char → Prop where
  | mk {sign whole fraction exponent : List Char} (hsign : sign = [] ∨ sign = ['-'])
    (hwhole : IsWhole whole) (hfraction : IsFraction fraction) (hexponent : IsExponent exponent) :
    IsNumber (sign ++ (whole ++ (fraction ++ exponent)))

/-- A text that begins with none of some characters. -/
def Avoids (p : Char → Bool) (rest : List Char) : Prop := ∀ x ∈ rest.head?, p x = false

/-- What may follow a value: a blank, a comma, a closing bracket or nothing. -/
def Ends (rest : List Char) : Prop :=
  ∀ x ∈ rest.head?, isBlank x = true ∨ x = ',' ∨ x = ']' ∨ x = '\x7d'

theorem Ends.avoids {p : Char → Bool} {rest : List Char} (h : Ends rest)
    (hp : [' ', '\n', '\t', '\r', ',', ']', '\x7d'].any p = false) : Avoids p rest := by
  intro x hx
  refine Bool.eq_false_iff.mpr (List.any_eq_false.mp hp x ?_)
  have hend := h x hx
  rw [isBlank] at hend
  simp only [Bool.or_eq_true, beq_iff_eq] at hend
  simp only [List.mem_cons, List.not_mem_nil, or_false]
  rcases hend with ((((h | h) | h) | h)) | h | h | h <;> simp [h]

theorem Avoids.append {p : Char → Bool} {cs rest : List Char} (hcs : Avoids p cs)
    (hrest : Avoids p rest) : Avoids p (cs ++ rest) := by
  cases cs with
  | nil => exact hrest
  | cons x cs => exact hcs

theorem run_digits {ds rest : List Char} (h : ∀ c ∈ ds, c.isDigit = true)
    (hrest : Avoids Char.isDigit rest) (n : Nat) :
    (⟨ds ++ rest, n⟩ : Cursor).run Char.isDigit = ds ∧
      ∃ m, (⟨ds ++ rest, n⟩ : Cursor).skipWhile Char.isDigit = ⟨rest, m⟩ := by
  have htake : rest.takeWhile Char.isDigit = [] := by
    cases rest with
    | nil => rfl
    | cons x rest => rw [List.takeWhile_cons, hrest x rfl, if_neg Bool.false_ne_true]
  have hdrop : rest.dropWhile Char.isDigit = rest := by
    cases rest with
    | nil => rfl
    | cons x rest => rw [List.dropWhile_cons, hrest x rfl, if_neg Bool.false_ne_true]
  constructor
  · rw [Cursor.run, List.takeWhile_append_of_pos h, htake, List.append_nil]
  · exact ⟨_, by rw [Cursor.skipWhile, List.dropWhile_append_of_pos h, hdrop]⟩

theorem wholePart_spelled {cs rest : List Char} (h : IsWhole cs)
    (hrest : Avoids Char.isDigit rest) (atEnd : Cause) (n : Nat) :
    ∃ m, wholePart atEnd ⟨cs ++ rest, n⟩ = .ok (cs, ⟨rest, m⟩) := by
  cases h with
  | zero =>
    cases rest with
    | nil => exact ⟨_, rfl⟩
    | cons x rest =>
      refine ⟨n + 1, ?_⟩
      rw [wholePart]
      exact if_neg (by rw [hrest x rfl]; exact Bool.false_ne_true)
  | @digits c cs hc hdigits =>
    obtain ⟨hrun, m, hskip⟩ := run_digits hdigits.2 hrest n
    refine ⟨m, ?_⟩
    rw [wholePart]
    split
    · next heq => exact absurd (List.cons.inj heq).1 hc
    · next heq => exact absurd (List.cons.inj heq).1 hc
    · next heq =>
      rw [← (List.cons.inj heq).1, if_pos (hdigits.2 c List.mem_cons_self), hrun, hskip]
    · next heq => cases heq

theorem fractionPart_spelled {cs rest : List Char} (h : IsFraction cs)
    (hrest : Avoids (fun x => x.isDigit || x == '.') rest) (atEnd : Cause) (n : Nat) :
    ∃ ds m, fractionPart atEnd ⟨cs ++ rest, n⟩ = .ok (ds, ⟨rest, m⟩) := by
  cases h with
  | none =>
    refine ⟨none, n, ?_⟩
    rw [fractionPart, if_neg]
    · rfl
    · intro hpoint
      cases hrest '.' hpoint
  | @some ds hdigits =>
    have hdigit : Avoids Char.isDigit rest :=
      fun x hx => (Bool.or_eq_false_iff.mp (hrest x hx)).1
    obtain ⟨hrun, m, hskip⟩ := run_digits hdigits.2 hdigit (n + 1)
    refine ⟨some ds, m, ?_⟩
    have hnext : (⟨'.' :: ds ++ rest, n⟩ : Cursor).next = ⟨ds ++ rest, n + 1⟩ := rfl
    have hpoint : (⟨'.' :: ds ++ rest, n⟩ : Cursor).peek? = some '.' := rfl
    rw [fractionPart, hpoint, if_pos rfl, hnext]
    dsimp only
    rw [hrun, hskip, if_neg fun hempty => hdigits.1 (List.isEmpty_iff.mp hempty)]

theorem exponentSign_spelled {sign ds : List Char}
    (hsign : sign = [] ∨ sign = ['+'] ∨ sign = ['-']) (hdigits : AreDigits ds) (rest : List Char)
    (n : Nat) : ∃ down m, exponentSign ⟨sign ++ (ds ++ rest), n⟩ = (down, ⟨ds ++ rest, m⟩) := by
  rcases hsign with rfl | rfl | rfl
  · obtain ⟨d, ds, rfl⟩ := List.exists_cons_of_ne_nil hdigits.1
    have hdigit := hdigits.2 d List.mem_cons_self
    refine ⟨false, n, ?_⟩
    rw [exponentSign]
    split
    · next heq => cases heq; cases hdigit
    · next heq => cases heq; cases hdigit
    · rfl
  · exact ⟨false, n + 1, rfl⟩
  · exact ⟨true, n + 1, rfl⟩

theorem exponentPart_spelled {cs rest : List Char} (h : IsExponent cs)
    (hrest : Avoids (fun x => x.isDigit || x == 'e' || x == 'E') rest) (atEnd : Cause) (n : Nat) :
    ∃ ds m, exponentPart atEnd ⟨cs ++ rest, n⟩ = .ok (ds, ⟨rest, m⟩) := by
  cases h with
  | none =>
    refine ⟨none, n, ?_⟩
    rw [exponentPart, if_neg]
    · rfl
    · rw [Bool.or_eq_true, decide_eq_true_iff, decide_eq_true_iff]
      rintro (hletter | hletter)
      · cases hrest 'e' hletter
      · cases hrest 'E' hletter
  | @some e sign ds he hsign hdigits =>
    have hdigit : Avoids Char.isDigit rest := fun x hx =>
      (Bool.or_eq_false_iff.mp (Bool.or_eq_false_iff.mp (hrest x hx)).1).1
    obtain ⟨down, k, hdown⟩ := exponentSign_spelled hsign hdigits rest (n + e.utf8Size)
    obtain ⟨hrun, m, hskip⟩ := run_digits hdigits.2 hdigit k
    refine ⟨some (down, ds), m, ?_⟩
    have hnext : (⟨e :: (sign ++ ds) ++ rest, n⟩ : Cursor).next
        = ⟨sign ++ (ds ++ rest), n + e.utf8Size⟩ := by
      rw [← List.append_assoc]
      rfl
    have hletter : (⟨e :: (sign ++ ds) ++ rest, n⟩ : Cursor).peek? = some e := rfl
    rw [exponentPart, hletter, if_pos (by rcases he with rfl | rfl <;> rfl), hnext, hdown]
    dsimp only
    rw [hrun, hskip, if_neg fun hempty => hdigits.1 (List.isEmpty_iff.mp hempty)]

theorem numeral_spelled {whole fraction exponent rest : List Char} (hwhole : IsWhole whole)
    (hfraction : IsFraction fraction) (hexponent : IsExponent exponent) (hrest : Ends rest)
    (atEnd : Cause) (n : Nat) :
    ∃ parts m, numeral atEnd ⟨whole ++ (fraction ++ (exponent ++ rest)), n⟩
      = .ok (parts, ⟨rest, m⟩) := by
  have hletter : Avoids (fun x => x.isDigit || x == '.') (exponent ++ rest) := by
    refine Avoids.append ?_ (hrest.avoids (by decide))
    cases hexponent with
    | none => nofun
    | some he =>
      rintro x ⟨⟩
      rcases he with rfl | rfl <;> rfl
  have hpoint : Avoids Char.isDigit (fraction ++ (exponent ++ rest)) := by
    refine Avoids.append ?_ fun x hx => (Bool.or_eq_false_iff.mp (hletter x hx)).1
    cases hfraction with
    | none => nofun
    | some =>
      rintro x ⟨⟩
      rfl
  obtain ⟨k, hk⟩ := wholePart_spelled hwhole hpoint atEnd n
  obtain ⟨ds, l, hl⟩ := fractionPart_spelled hfraction hletter atEnd k
  obtain ⟨e, m, hm⟩ := exponentPart_spelled hexponent (hrest.avoids (by decide)) atEnd l
  refine ⟨_, m, bind_eq_ok.mpr ⟨_, hk, bind_eq_ok.mpr ⟨_, hl, bind_eq_ok.mpr ⟨_, hm, rfl⟩⟩⟩⟩

/-- Characters that a number may begin with. -/
def isNumeric (x : Char) : Bool := x = '-' || x.isDigit

theorem ne_of_isNumeric {x c : Char} (hx : isNumeric x = true) (hc : isNumeric c = false) :
    x ≠ c := by
  rintro rfl
  cases hx.symm.trans hc

theorem not_isBlank_of_isNumeric {x : Char} (hx : isNumeric x = true) : isBlank x = false := by
  rw [isBlank]
  simp only [Bool.or_eq_false_iff, beq_eq_false_iff_ne]
  exact ⟨⟨⟨ne_of_isNumeric hx (by decide), ne_of_isNumeric hx (by decide)⟩,
    ne_of_isNumeric hx (by decide)⟩, ne_of_isNumeric hx (by decide)⟩

theorem IsNumber.head {cs : List Char} (h : IsNumber cs) :
    ∃ x xs, cs = x :: xs ∧ isNumeric x = true := by
  obtain ⟨hsign, hwhole, -, -⟩ := h
  rcases hsign with rfl | rfl
  · cases hwhole with
    | zero => exact ⟨'0', _, rfl, rfl⟩
    | digits hc hdigits =>
      exact ⟨_, _, rfl, Bool.or_eq_true_iff.mpr (Or.inr (hdigits.2 _ List.mem_cons_self))⟩
  · exact ⟨'-', _, rfl, rfl⟩

/-- **A number of any size is passed**, if something follows that may follow a value. -/
theorem passNumber_spelled {cs rest : List Char} (h : IsNumber cs) (hrest : Ends rest) (n : Nat) :
    ∃ m, passNumber ⟨cs ++ rest, n⟩ = .ok ⟨rest, m⟩ := by
  obtain ⟨hsign, hwhole, hfraction, hexponent⟩ := h
  rename_i sign whole fraction exponent
  rw [List.append_assoc, List.append_assoc, List.append_assoc, passNumber]
  rcases hsign with rfl | rfl
  · have hminus : (⟨whole ++ (fraction ++ (exponent ++ rest)), n⟩ : Cursor).peek? ≠ some '-' := by
      cases hwhole with
      | zero => nofun
      | digits hc hdigits =>
        intro hminus
        cases hminus
        cases hdigits.2 '-' List.mem_cons_self
    obtain ⟨parts, m, hm⟩ := numeral_spelled hwhole hfraction hexponent hrest .badNumber n
    rw [List.nil_append, if_neg hminus]
    exact ⟨m, map_eq_ok.mpr ⟨_, hm, rfl⟩⟩
  · obtain ⟨parts, m, hm⟩ := numeral_spelled hwhole hfraction hexponent hrest .badNumber (n + 1)
    exact ⟨m, map_eq_ok.mpr ⟨_, hm, rfl⟩⟩

end SchemaClass.Json
