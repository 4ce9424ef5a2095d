import SchemaClass.Text.Position
/-!
# Reading a text from its start

A cursor is what is left of a text together with the number of bytes that have been read.

* `next_left_lt`, `skipWhile_left_le`: what a cursor leaves behind it never grows back;
* `hexValue?`: texts in several formats name characters by their numbers, in base sixteen.
-/

namespace SchemaClass.Text

/-- The rest of a text and the number of bytes before it. -/
structure Cursor where
  rest : List Char
  read : Nat
  deriving DecidableEq, Repr

namespace Cursor

/-- The start of a text. -/
def start (cs : List Char) : Cursor := ⟨cs, 0⟩

/-- The next character. -/
def peek? (c : Cursor) : Option Char := c.rest.head?

/-- The number of characters that are left. -/
def left (c : Cursor) : Nat := c.rest.length

/-- The cursor behind the next character; at the end it stays. -/
def next (c : Cursor) : Cursor :=
  match c.rest with
  | [] => c
  | x :: rest => ⟨rest, c.read + x.utf8Size⟩

/-- The number of bytes read once the first byte of the next character is read too. -/
def ahead (c : Cursor) : Nat := if c.rest.isEmpty then c.read else c.read + 1

/-- The cursor behind the longest run of characters that satisfy `p`. -/
def skipWhile (p : Char → Bool) (c : Cursor) : Cursor :=
  ⟨c.rest.dropWhile p, c.read + byteLength (c.rest.takeWhile p)⟩

/-- The longest run of characters that satisfy `p`. -/
def run (p : Char → Bool) (c : Cursor) : List Char := c.rest.takeWhile p

theorem next_left_lt {c : Cursor} (h : c.rest ≠ []) : c.next.left < c.left := by
  obtain ⟨rest, read⟩ := c
  cases rest with
  | nil => exact absurd rfl h
  | cons x xs => simp [next, left]

theorem next_left_lt_of_peek? {c : Cursor} {x : Char} (h : c.peek? = some x) :
    c.next.left < c.left :=
  next_left_lt (by rintro he; simp [peek?, he] at h)

theorem next_left_le (c : Cursor) : c.next.left ≤ c.left := by
  obtain ⟨rest, read⟩ := c
  cases rest <;> simp [next, left]

theorem skipWhile_left_le (p : Char → Bool) (c : Cursor) : (c.skipWhile p).left ≤ c.left := by
  simpa [skipWhile, left] using (List.dropWhile_suffix p).length_le

end Cursor

/-- The value of a hexadecimal digit. -/
def hexValue? (c : Char) : Option Nat :=
  if c.isDigit then some (c.toNat - '0'.toNat)
  else if 'a' ≤ c && c ≤ 'f' then some (c.toNat - 'a'.toNat + 10)
  else if 'A' ≤ c && c ≤ 'F' then some (c.toNat - 'A'.toNat + 10)
  else none

end SchemaClass.Text
