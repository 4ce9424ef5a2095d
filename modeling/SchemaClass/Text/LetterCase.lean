import SchemaClass.Text.LetterCase.Table
/-!
# Letter case of a character

Upper and lower case by the full Unicode mappings, one character at a time: a character may become
several (`ß` becomes `SS`), and no rule looks at its neighbours.  ASCII is decided without the
tables, so a statement about ASCII names never has to look into them.

* `upper_ne_nil`, `lower_ne_nil`: a mapping never loses a character;
* `upper_ascii`, `lower_ascii`: on ASCII both are the mappings of `Char`.
-/

namespace SchemaClass.Text.LetterCase

/-- The characters of ASCII. -/
def isAscii (c : Char) : Bool := c.toNat < 0x80

/-- Moves a character by the shift of the run that holds it; outside all runs it stays. -/
def shift (table : List Run) (c : Char) : Char :=
  match findRun? table c.toNat with
  | some run => Char.ofNat (c.toNat + run.shift).toNat
  | none => c

/-- The other case of a character: several characters where the spellings have an entry, else one. -/
def respell (spellings : List (Nat × List Nat)) (shifts : List Run) (c : Char) : List Char :=
  match spellings.lookup c.toNat with
  | some (n :: ns) => Char.ofNat n :: ns.map Char.ofNat
  | _ => [shift shifts c]

/-- The uppercase form of a character. -/
def upper (c : Char) : List Char :=
  if isAscii c then [c.toUpper] else respell upperSpellings upperShifts c

/-- The lowercase form of a character. -/
def lower (c : Char) : List Char :=
  if isAscii c then [c.toLower] else respell lowerSpellings lowerShifts c

/-- The property Uppercase. -/
def isUpper (c : Char) : Bool :=
  if isAscii c then c.isUpper else (findRun? upperClass c.toNat).isSome

/-- The property Lowercase. -/
def isLower (c : Char) : Bool :=
  if isAscii c then c.isLower else (findRun? lowerClass c.toNat).isSome

/-! ## 1. No character is lost -/

theorem respell_ne_nil (spellings : List (Nat × List Nat)) (shifts : List Run) (c : Char) :
    respell spellings shifts c ≠ [] := by
  unfold respell
  split <;> simp

theorem upper_ne_nil (c : Char) : upper c ≠ [] := by
  unfold upper
  split
  · simp
  · exact respell_ne_nil _ _ c

theorem lower_ne_nil (c : Char) : lower c ≠ [] := by
  unfold lower
  split
  · simp
  · exact respell_ne_nil _ _ c

/-! ## 2. ASCII -/

theorem upper_ascii {c : Char} (h : isAscii c = true) : upper c = [c.toUpper] := by
  simp [upper, h]

theorem lower_ascii {c : Char} (h : isAscii c = true) : lower c = [c.toLower] := by
  simp [lower, h]

theorem isUpper_ascii {c : Char} (h : isAscii c = true) : isUpper c = c.isUpper := by
  simp [isUpper, h]

theorem isLower_ascii {c : Char} (h : isAscii c = true) : isLower c = c.isLower := by
  simp [isLower, h]

end SchemaClass.Text.LetterCase
