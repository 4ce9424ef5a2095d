/-!
# Places in a text

Places are counted in bytes of UTF-8.  A reader reports how many bytes it has read; a message shows
that as a line and a column, and a label turns line and column back into an offset.

* `byteLength_append`: lengths add up;
* `lineColumn`: line and column behind the first bytes of a text;
* `offsetOf?`: the offset of a line and a column, if it lies in the text.
-/

namespace SchemaClass.Text

/-- A stretch of a text, in bytes. -/
structure Span where
  offset : Nat
  length : Nat
  deriving DecidableEq, Repr

/-- The number of bytes of a text. -/
def byteLength : List Char → Nat
  | [] => 0
  | c :: cs => c.utf8Size + byteLength cs

@[simp] theorem byteLength_nil : byteLength [] = 0 := rfl

@[simp] theorem byteLength_cons (c : Char) (cs : List Char) :
    byteLength (c :: cs) = c.utf8Size + byteLength cs := rfl

@[simp] theorem byteLength_append (cs ds : List Char) :
    byteLength (cs ++ ds) = byteLength cs + byteLength ds := by
  induction cs with
  | nil => simp
  | cons c cs ih => simp [ih, Nat.add_assoc]

/-- A text behind its first `n` bytes, if no character is cut. -/
def dropBytes? : (n : Nat) → List Char → Option (List Char)
  | 0, cs => some cs
  | _ + 1, [] => none
  | n + 1, c :: cs => if n + 1 < c.utf8Size then none else dropBytes? (n + 1 - c.utf8Size) cs

/-- The first `n` bytes of a text, if no character is cut. -/
def takeBytes? : (n : Nat) → List Char → Option (List Char)
  | 0, _ => some []
  | _ + 1, [] => none
  | n + 1, c :: cs =>
    if n + 1 < c.utf8Size then none else (takeBytes? (n + 1 - c.utf8Size) cs).map (c :: ·)

/-- The bytes of a text from one offset to another, if no character is cut. -/
def sliceBytes? (start stop : Nat) (text : List Char) : Option (List Char) := do
  takeBytes? (stop - start) (← dropBytes? start text)

/-- Line and column behind `n` more bytes, where `line` and `column` have been reached. -/
def advance (line column : Nat) : (n : Nat) → List Char → Nat × Nat
  | 0, _ => (line, column)
  | _ + 1, [] => (line, column)
  | n + 1, c :: cs =>
    if c = '\n' then advance (line + 1) 0 n cs
    else if n + 1 < c.utf8Size then (line, column + (n + 1))
    else advance line (column + c.utf8Size) (n + 1 - c.utf8Size) cs

/-- The line and the column that the first `n` bytes of a text lead to.  Lines count from one; the
column is the number of bytes read on the line, zero right behind a line break. -/
def lineColumn (text : List Char) (n : Nat) : Nat × Nat := advance 1 0 n text

/-- The offset behind the first line breaks of a text. -/
def behindBreaks : (breaks : Nat) → List Char → Nat
  | 0, _ => 0
  | _ + 1, [] => 0
  | n + 1, c :: cs => c.utf8Size + behindBreaks (if c = '\n' then n else n + 1) cs

/-- The offset of a line and a column, both counted from one (`offset_of`).  A column of zero means
the start of the line, and a place behind the text has no offset. -/
def offsetOf? (text : List Char) (line column : Nat) : Option Nat :=
  if line = 0 then none
  else
    let offset := behindBreaks (line - 1) text + (column - 1)
    if offset < byteLength text then some offset else none

@[simp] theorem offsetOf?_line_zero (text : List Char) (column : Nat) :
    offsetOf? text 0 column = none := rfl

/-- An offset that is found lies in the text. -/
theorem offsetOf?_lt {text : List Char} {line column offset : Nat}
    (h : offsetOf? text line column = some offset) : offset < byteLength text := by
  unfold offsetOf? at h
  split at h
  · cases h
  · dsimp only at h
    split at h
    · cases h
      assumption
    · cases h

end SchemaClass.Text
