import SchemaClass.Json.Fault
import SchemaClass.Text.Cursor
/-!
# The tokens of JSON

Blanks, words, strings and numbers, as `serde_json` takes them.  Strings are read in two ways: for
their text, which must be well formed, and only to be passed, where an escape for half of a
surrogate pair is let through.

* `word_left_le`, `escape_left_lt`, `passEscape_left_lt`: reading never puts anything back;
* `readString_left_lt`, `passString_left_lt`: a string takes at least its closing quote.
-/

namespace SchemaClass.Json

open Text (Cursor hexValue?)

/-! ## 1. Blanks and words -/

/-- The four blanks of JSON. -/
def isBlank (c : Char) : Bool := c == ' ' || c == '\n' || c == '\t' || c == '\r'

/-- Passes blanks. -/
def skipBlanks (c : Cursor) : Cursor := c.skipWhile isBlank

theorem skipBlanks_left_le (c : Cursor) : (skipBlanks c).left ≤ c.left :=
  c.skipWhile_left_le isBlank

/-- Passes the rest of a word whose first letters have been passed. -/
def word : List Char → Cursor → Except Fault Cursor
  | [], c => .ok c
  | w :: ws, c =>
    match c.rest with
    | [] => failAhead c .endInValue
    | x :: _ => if x = w then word ws c.next else failAhead c .noWord

theorem word_left_le {ws : List Char} {c d : Cursor} (h : word ws c = .ok d) :
    d.left ≤ c.left := by
  induction ws generalizing c with
  | nil => cases h; exact Nat.le_refl _
  | cons w ws ih =>
    rw [word] at h
    split at h
    · cases h
    · split at h
      · exact Nat.le_trans (ih h) c.next_left_le
      · cases h

/-! ## 2. Escapes -/

/-- The number of four hexadecimal digits. -/
def hexNumber? (a b c d : Char) : Option Nat := do
  return (((← hexValue? a) * 16 + (← hexValue? b)) * 16 + (← hexValue? c)) * 16 + (← hexValue? d)

/-- What is wrong where four hexadecimal digits should stand: the text ends within four bytes, or
the four bytes are not all digits. -/
def hexFault (c : Cursor) : Fault :=
  let bytes := Text.byteLength c.rest
  if bytes < 4 then ⟨.endInString, c.read + bytes⟩ else ⟨.badEscape, c.read + 4⟩

/-- Reads four hexadecimal digits. -/
def hex4 (c : Cursor) : Except Fault (Nat × Cursor) :=
  match c.rest with
  | x :: y :: z :: w :: rest =>
    match hexNumber? x y z w with
    | some n => .ok (n, ⟨rest, c.read + 4⟩)
    | none => .error (hexFault c)
  | _ => .error (hexFault c)

theorem hex4_left_lt {c d : Cursor} {n : Nat} (h : hex4 c = .ok (n, d)) : d.left < c.left := by
  obtain ⟨rest, read⟩ := c
  unfold hex4 at h
  split at h
  · next x y z w rest' he =>
    split at h
    · cases h
      dsimp only at he
      simp [Cursor.left, he]
      omega
    · cases h
  · cases h

def isLeadingSurrogate (n : Nat) : Bool := 0xD800 ≤ n && n ≤ 0xDBFF

def isTrailingSurrogate (n : Nat) : Bool := 0xDC00 ≤ n && n ≤ 0xDFFF

/-- The character of a surrogate pair. -/
def pairChar (leading trailing : Nat) : Char :=
  Char.ofNat ((leading - 0xD800) * 0x400 + (trailing - 0xDC00) + 0x10000)

/-- Passes the `\u` between the halves of a pair. -/
def pairJoint (c : Cursor) : Except Fault Cursor :=
  if c.rest.isEmpty then failHere c .endInString
  else if c.peek? ≠ some '\\' then failAhead c .halfSurrogatePair
  else if c.next.rest.isEmpty then failHere c.next .endInString
  else if c.next.peek? ≠ some 'u' then failAhead c.next .halfSurrogatePair
  else .ok c.next.next

/-- Reads the second half of a pair. -/
def secondHalf (leading : Nat) (c : Cursor) : Except Fault (Char × Cursor) := do
  let (trailing, d) ← hex4 (← pairJoint c)
  if isTrailingSurrogate trailing then .ok (pairChar leading trailing, d)
  else failHere d .loneSurrogate

/-- Reads the digits behind `\u`, and the second half of a pair. -/
def unicodeEscape (c : Cursor) : Except Fault (Char × Cursor) := do
  let (n, d) ← hex4 c
  if isTrailingSurrogate n then failHere d .loneSurrogate
  else if isLeadingSurrogate n then secondHalf n d
  else .ok (Char.ofNat n, d)

/-- The character of a short escape. -/
def shortEscape? : Char → Option Char
  | '"' => some '"'
  | '\\' => some '\\'
  | '/' => some '/'
  | 'b' => some '\x08'
  | 'f' => some '\x0c'
  | 'n' => some '\n'
  | 'r' => some '\r'
  | 't' => some '\t'
  | _ => none

/-- Reads an escape behind its backslash. -/
def escape (c : Cursor) : Except Fault (Char × Cursor) :=
  match c.rest with
  | [] => failHere c .endInString
  | 'u' :: _ => unicodeEscape c.next
  | x :: _ =>
    match shortEscape? x with
    | some y => .ok (y, c.next)
    | none => failAhead c .badEscape

/-- Passes an escape behind its backslash. -/
def passEscape (c : Cursor) : Except Fault Cursor :=
  match c.rest with
  | [] => failHere c .endInString
  | 'u' :: _ => (hex4 c.next).map (·.2)
  | x :: _ => if (shortEscape? x).isSome then .ok c.next else failAhead c .badEscape

theorem pairJoint_left_le {c d : Cursor} (h : pairJoint c = .ok d) : d.left ≤ c.left := by
  have := c.next_left_le
  have := c.next.next_left_le
  unfold pairJoint failHere failAhead at h
  repeat' split at h
  all_goals simp only [reduceCtorEq, Except.ok.injEq] at h
  subst h
  omega

theorem secondHalf_left_lt {n : Nat} {c d : Cursor} {x : Char}
    (h : secondHalf n c = .ok (x, d)) : d.left < c.left := by
  unfold secondHalf at h
  cases hj : pairJoint c with
  | error f => simp [hj, bind, Except.bind] at h
  | ok e =>
    cases hx : hex4 e with
    | error f => simp [hj, hx, bind, Except.bind] at h
    | ok p =>
      simp only [hj, hx, bind, Except.bind] at h
      split at h
      · simp only [Except.ok.injEq, Prod.mk.injEq] at h
        obtain ⟨-, rfl⟩ := h
        have := pairJoint_left_le hj
        have := hex4_left_lt hx
        omega
      · cases h

theorem unicodeEscape_left_lt {c d : Cursor} {x : Char} (h : unicodeEscape c = .ok (x, d)) :
    d.left < c.left := by
  unfold unicodeEscape at h
  cases hx : hex4 c with
  | error f => simp [hx, bind, Except.bind] at h
  | ok p =>
    have he := hex4_left_lt hx
    simp only [hx, bind, Except.bind] at h
    split at h
    · cases h
    · split at h
      · have := secondHalf_left_lt h
        omega
      · simp only [Except.ok.injEq, Prod.mk.injEq] at h
        obtain ⟨-, rfl⟩ := h
        exact he

theorem escape_left_lt {c d : Cursor} {x : Char} (h : escape c = .ok (x, d)) :
    d.left < c.left := by
  unfold escape at h
  split at h
  · cases h
  · have := unicodeEscape_left_lt h
    have := c.next_left_le
    omega
  · next y ys hne he =>
    split at h
    · cases h
      exact Cursor.next_left_lt (by simp [he])
    · cases h

theorem passEscape_left_lt {c d : Cursor} (h : passEscape c = .ok d) : d.left < c.left := by
  unfold passEscape at h
  split at h
  · cases h
  · cases hx : hex4 c.next with
    | error f => simp [hx, Except.map] at h
    | ok p =>
      obtain ⟨n, e⟩ := p
      simp only [hx, Except.map] at h
      cases h
      have := hex4_left_lt hx
      have := c.next_left_le
      omega
  · next y ys hne he =>
    split at h
    · cases h
      exact Cursor.next_left_lt (by simp [he])
    · cases h

/-! ## 3. Strings -/

/-- Reads a string behind its opening quote: its characters, and what is left behind the closing
quote. -/
def readChars (c : Cursor) : Except Fault (List Char × Cursor) :=
  match _hc : c.rest with
  | [] => failHere c .endInString
  | x :: _ =>
    if x = '"' then .ok ([], c.next)
    else if x = '\\' then
      match _he : escape c.next with
      | .error f => .error f
      | .ok (y, d) =>
        match readChars d with
        | .error f => .error f
        | .ok (ys, e) => .ok (y :: ys, e)
    else if x.toNat < 0x20 then failAhead c .controlCharacter
    else
      match readChars c.next with
      | .error f => .error f
      | .ok (ys, e) => .ok (x :: ys, e)
termination_by c.left
decreasing_by
  · have := escape_left_lt _he
    have := c.next_left_le
    omega
  · exact Cursor.next_left_lt (by simp [_hc])

/-- Reads a string behind its opening quote. -/
def readString : Reader String := fun c =>
  (readChars c).map fun (cs, d) => (String.ofList cs, d)

/-- Passes a string behind its opening quote. -/
def passString (c : Cursor) : Except Fault Cursor :=
  match _hc : c.rest with
  | [] => failHere c .endInString
  | x :: _ =>
    if x = '"' then .ok c.next
    else if x = '\\' then
      match _he : passEscape c.next with
      | .error f => .error f
      | .ok d => passString d
    else if x.toNat < 0x20 then failHere c .controlCharacter
    else passString c.next
termination_by c.left
decreasing_by
  · have := passEscape_left_lt _he
    have := c.next_left_le
    omega
  · exact Cursor.next_left_lt (by simp [_hc])

theorem passString_left_lt {c d : Cursor} (h : passString c = .ok d) : d.left < c.left := by
  fun_induction passString c with
  | case1 => cases h
  | case2 c xs hc =>
    cases h
    exact Cursor.next_left_lt (by simp [hc])
  | case3 => cases h
  | case4 c xs e he hc hq ih =>
    have := passEscape_left_lt he
    have := c.next_left_le
    have := ih h
    omega
  | case5 => cases h
  | case6 c x xs hc hx hb hl ih =>
    have := c.next_left_le
    have := ih h
    omega

/-! ## 4. Numbers -/

/-- The parts of a numeral without its sign. -/
structure Numeral where
  whole : List Char
  fraction : Option (List Char)
  /-- The sign and the digits of the exponent. -/
  exponent : Option (Bool × List Char)
  /-- The number of bytes before the digits of the exponent. -/
  exponentAt : Nat
  deriving DecidableEq, Repr

/-- Refuses the next character of a numeral; `atEnd` is what is said at the end of the text. -/
def badNumeral {α : Type} (atEnd : Cause) (c : Cursor) : Except Fault α :=
  failAhead c (if c.rest.isEmpty then atEnd else .badNumber)

/-- The digits before the point: a zero stands alone. -/
def wholePart (atEnd : Cause) (c : Cursor) : Except Fault (List Char × Cursor) :=
  match c.rest with
  | '0' :: x :: _ => if x.isDigit then failAhead c.next .badNumber else .ok (['0'], c.next)
  | '0' :: [] => .ok (['0'], c.next)
  | x :: _ =>
    if x.isDigit then .ok (c.run Char.isDigit, c.skipWhile Char.isDigit) else badNumeral atEnd c
  | [] => badNumeral atEnd c

/-- The digits behind the point, if there is one. -/
def fractionPart (atEnd : Cause) (c : Cursor) : Except Fault (Option (List Char) × Cursor) :=
  if c.peek? = some '.' then
    let digits := c.next.run Char.isDigit
    let d := c.next.skipWhile Char.isDigit
    if digits.isEmpty then badNumeral atEnd d else .ok (some digits, d)
  else .ok (none, c)

/-- Passes the sign of an exponent. -/
def exponentSign (c : Cursor) : Bool × Cursor :=
  match c.peek? with
  | some '+' => (false, c.next)
  | some '-' => (true, c.next)
  | _ => (false, c)

/-- The sign and the digits of the exponent, if there is one. -/
def exponentPart (atEnd : Cause) (c : Cursor) :
    Except Fault (Option (Bool × List Char) × Cursor) :=
  if c.peek? = some 'e' || c.peek? = some 'E' then
    let (negative, d) := exponentSign c.next
    let digits := d.run Char.isDigit
    if digits.isEmpty then badNumeral atEnd d
    else .ok (some (negative, digits), d.skipWhile Char.isDigit)
  else .ok (none, c)

/-- Scans a numeral without its sign. -/
def numeral (atEnd : Cause) : Reader Numeral := fun c => do
  let (whole, c) ← wholePart atEnd c
  let (fraction, c) ← fractionPart atEnd c
  let (exponent, d) ← exponentPart atEnd c
  let exponentAt := match exponent with
    | some (_, digits) => d.read - digits.length
    | none => d.read
  return (⟨whole, fraction, exponent, exponentAt⟩, d)

theorem wholePart_left_lt {atEnd : Cause} {c d : Cursor} {ds : List Char}
    (h : wholePart atEnd c = .ok (ds, d)) : d.left < c.left := by
  obtain ⟨rest, read⟩ := c
  unfold wholePart at h
  split at h
  · split at h
    · cases h
    · cases h
      exact Cursor.next_left_lt (by simp_all)
  · cases h
    exact Cursor.next_left_lt (by simp_all)
  · next x xs _ _ he =>
    split at h
    · next hd =>
      cases h
      dsimp only at he
      subst he
      have := (List.dropWhile_suffix Char.isDigit (l := xs)).length_le
      simp only [Cursor.left, Cursor.skipWhile, List.dropWhile_cons, hd, ↓reduceIte,
        List.length_cons]
      omega
    · cases h
  · cases h

theorem fractionPart_left_le {atEnd : Cause} {c d : Cursor} {ds : Option (List Char)}
    (h : fractionPart atEnd c = .ok (ds, d)) : d.left ≤ c.left := by
  unfold fractionPart at h
  split at h
  · dsimp only at h
    split at h
    · cases h
    · cases h
      have := c.next_left_le
      have := c.next.skipWhile_left_le Char.isDigit
      omega
  · cases h
    exact Nat.le_refl _

theorem exponentSign_left_le (c : Cursor) : (exponentSign c).2.left ≤ c.left := by
  unfold exponentSign
  split
  · exact c.next_left_le
  · exact c.next_left_le
  · exact Nat.le_refl _

theorem exponentPart_left_le {atEnd : Cause} {c d : Cursor} {e : Option (Bool × List Char)}
    (h : exponentPart atEnd c = .ok (e, d)) : d.left ≤ c.left := by
  unfold exponentPart at h
  split at h
  · dsimp only at h
    split at h
    · cases h
    · cases h
      have := c.next_left_le
      have := exponentSign_left_le c.next
      have := (exponentSign c.next).2.skipWhile_left_le Char.isDigit
      omega
  · cases h
    exact Nat.le_refl _

theorem numeral_left_lt {atEnd : Cause} {c d : Cursor} {n : Numeral}
    (h : numeral atEnd c = .ok (n, d)) : d.left < c.left := by
  unfold numeral at h
  cases h₁ : wholePart atEnd c with
  | error f => simp [h₁, bind, Except.bind] at h
  | ok p =>
    obtain ⟨w, c₁⟩ := p
    cases h₂ : fractionPart atEnd c₁ with
    | error f => simp [h₁, h₂, bind, Except.bind] at h
    | ok p =>
      obtain ⟨f, c₂⟩ := p
      cases h₃ : exponentPart atEnd c₂ with
      | error f => simp [h₁, h₂, h₃, bind, Except.bind] at h
      | ok p =>
        obtain ⟨e, c₃⟩ := p
        simp only [h₁, h₂, h₃, bind, Except.bind, pure, Except.pure, Except.ok.injEq,
          Prod.mk.injEq] at h
        obtain ⟨-, rfl⟩ := h
        have := wholePart_left_lt h₁
        have := fractionPart_left_le h₂
        have := exponentPart_left_le h₃
        omega

/-! ## 5. The value of a number -/

/-- Appends digits to a number as long as the result fits in 64 bits. -/
def absorb (n : Nat) : List Char → Nat × List Char
  | [] => (n, [])
  | d :: ds =>
    let m := n * 10 + (d.toNat - '0'.toNat)
    if m < UInt64.size then absorb m ds else (n, d :: ds)

/-- The number of digits after which an exponent is larger than any that is computed with, if it
becomes so. -/
def exponentLimit? : (passed exponent : Nat) → List Char → Option Nat
  | _, _, [] => none
  | passed, exponent, d :: ds =>
    let next := exponent * 10 + (d.toNat - '0'.toNat)
    if next < 0x80000000 then exponentLimit? (passed + 1) next ds else some (passed + 1)

/-- The value of a numeral whose digits are all before the point and fit in 64 bits: an integer,
except that a negative one that needs more bits, and minus zero, are floating point numbers. -/
def integerValue (negative : Bool) (n : Nat) : Found :=
  if !negative then .integer n
  else if n = 0 || n > 0x8000000000000000 then .float (.ofFloat (-(UInt64.ofNat n).toFloat))
  else .integer (-n)

/-- The value of a numeral.  Digits that do not fit in 64 bits are dropped; before the point they
count as zeros. -/
def Numeral.value (n : Numeral) (negative : Bool) (c : Cursor) : Except Fault Found :=
  let (digits, dropped) := absorb 0 n.whole
  if n.fraction.isNone && n.exponent.isNone && dropped.isEmpty then
    .ok (integerValue negative digits)
  else
    let fraction := n.fraction.getD []
    let (digits, unused) := absorb digits fraction
    let scale : Int := dropped.length - (fraction.length - unused.length : Nat)
    let finish (scale : Int) : Except Fault Found :=
      match Binary64.scaled? negative digits scale with
      | some x => .ok (.float (.ofFloat x))
      | none => failHere c .numberTooLarge
    match n.exponent with
    | none => finish scale
    | some (down, ds) =>
      match exponentLimit? 0 0 ds with
      | some k =>
        if digits ≠ 0 && !down then .error ⟨.numberTooLarge, n.exponentAt + k⟩
        else .ok (.float (.ofFloat (if negative then -0.0 else 0.0)))
      | none =>
        let e : Int := (ds.foldl (fun n d => n * 10 + (d.toNat - '0'.toNat)) 0 : Nat)
        finish (if down then scale - e else scale + e)

/-- Reads a number for a message about its value. -/
def readNumber : Reader Found := fun c => do
  let negative := c.peek? = some '-'
  let (n, d) ← numeral .endInValue (if negative then c.next else c)
  return (← n.value negative d, d)

/-- Passes a number. -/
def passNumber (c : Cursor) : Except Fault Cursor :=
  (numeral .badNumber (if c.peek? = some '-' then c.next else c)).map (·.2)

theorem passNumber_left_lt {c d : Cursor} (h : passNumber c = .ok d) : d.left < c.left := by
  unfold passNumber at h
  split at h
  · cases hn : numeral .badNumber c.next with
    | error f => simp [hn, Except.map] at h
    | ok p =>
      obtain ⟨n, e⟩ := p
      simp only [hn, Except.map] at h
      cases h
      have := numeral_left_lt hn
      have := c.next_left_le
      omega
  · cases hn : numeral .badNumber c with
    | error f => simp [hn, Except.map] at h
    | ok p =>
      obtain ⟨n, e⟩ := p
      simp only [hn, Except.map] at h
      cases h
      exact numeral_left_lt hn

end SchemaClass.Json
