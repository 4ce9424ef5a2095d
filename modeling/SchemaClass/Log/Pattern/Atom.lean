import SchemaClass.Text.Blank
import SchemaClass.Text.Cursor
/-!
# The smallest parts of a pattern

A pattern is read under flags, which change on the way.  The matcher has no Unicode data: letter
case and the short names of classes mean nothing to it as long as it matches characters, and once
it matches bytes, it must never match half a character.

* `skipSpace`: blanks and comments, where the flags allow them;
* `readEscape`: what a backslash stands for;
* `Atom.isMatchable`, `Atom.isMember`: what can be matched, alone and as a member of a class.
-/

namespace SchemaClass.LogFilter.Pattern

/-! ## 1. Flags -/

/-- How a pattern is read and matched. -/
structure Flags where
  /-- Letters are matched in either case. -/
  ignoreCase : Bool := false
  /-- Characters are matched, not bytes. -/
  unicode : Bool := true
  /-- Blanks and comments are passed. -/
  spaced : Bool := false
  deriving DecidableEq, Repr

/-- The letters of flags; four of them change nothing about what is a pattern. -/
def Flags.letters : List Char := ['i', 'u', 'x', 'm', 's', 'R', 'U']

/-- Changes the flag of a letter. -/
def Flags.set (f : Flags) (letter : Char) (value : Bool) : Flags :=
  if letter = 'i' then { f with ignoreCase := value }
  else if letter = 'u' then { f with unicode := value }
  else if letter = 'x' then { f with spaced := value }
  else f

/-- Passes blanks and comments; `inComment` says that a comment has begun. -/
def skipFrom : (inComment : Bool) → List Char → List Char
  | _, [] => []
  | true, c :: rest => skipFrom (c != '\n') rest
  | false, c :: rest =>
    if Text.isBlank c then skipFrom false rest
    else if c = '#' then skipFrom true rest
    else c :: rest

/-- Passes blanks and comments, where the flags allow them. -/
def Flags.skipSpace (f : Flags) (cs : List Char) : List Char :=
  if f.spaced then skipFrom false cs else cs

/-! ## 2. Atoms -/

/-- A part of a pattern without parts. -/
inductive Atom where
  /-- One character, perhaps written as a byte. -/
  | literal (c : Char) (isByte : Bool)
  /-- All digits, blanks or word characters, or all other characters. -/
  | shorthand (negated : Bool)
  /-- Any character. -/
  | any
  /-- The beginning or the end of a text or a line. -/
  | edge
  /-- A place where a word begins or ends. -/
  | wordEdge
  deriving DecidableEq, Repr

namespace Atom

/-- Whether an atom can be matched under flags. -/
def isMatchable (f : Flags) : Atom → Bool
  | literal c isByte => if f.unicode then !f.ignoreCase else !isByte || c.toNat < 0x80
  | shorthand negated => !f.unicode && !negated
  | any => f.unicode
  | edge => true
  | wordEdge => !f.unicode

/-- Whether an atom can be a member of a class under flags. -/
def isMember (f : Flags) : Atom → Bool
  | literal c _ => if f.unicode then !f.ignoreCase else c.toNat < 0x80
  | shorthand negated => !f.unicode && !negated
  | any | edge | wordEdge => false

end Atom

/-! ## 3. Escapes -/

/-- The character of a short escape. -/
def shortEscape? (c : Char) : Option Char :=
  match c with
  | 'a' => some '\x07'
  | 'f' => some '\x0c'
  | 't' => some '\t'
  | 'n' => some '\n'
  | 'r' => some '\r'
  | 'v' => some '\x0b'
  | c => if c.toNat < 0x80 && !c.isAlphanum && c != '<' && c != '>' then some c else none

/-- Appends hexadecimal digits to a number. -/
def readDigits (f : Flags) : (count value : Nat) → List Char → Option (Nat × List Char)
  | 0, value, cs => some (value, cs)
  | count + 1, value, cs =>
    match f.skipSpace cs with
    | [] => none
    | d :: rest => do readDigits f count (value * 16 + (← Text.hexValue? d)) rest

/-- Reads the number of a character. -/
def readNumber (f : Flags) (count : Nat) (isByte : Bool) (cs : List Char) :
    Option (Atom × List Char) := do
  let (n, rest) ← readDigits f count 0 cs
  if n.isValidChar then some (.literal (Char.ofNat n) isByte, rest) else none

/-- Reads what follows a backslash. -/
def readEscape (f : Flags) : List Char → Option (Atom × List Char)
  | [] => none
  | c :: rest =>
    if c = 'x' then readNumber f 2 true rest
    else if c = 'u' then readNumber f 4 false rest
    else if c = 'U' then readNumber f 8 false rest
    else if ['d', 's', 'w'].contains c then some (.shorthand false, rest)
    else if ['D', 'S', 'W'].contains c then some (.shorthand true, rest)
    else if c = 'A' || c = 'z' then some (.edge, rest)
    else if ['b', 'B', '<', '>'].contains c then some (.wordEdge, rest)
    else (shortEscape? c).map fun c => (.literal c false, rest)

/-! ## 4. Nesting -/

/-- How deep parts are nested that stand side by side.  A single part needs nothing around it. -/
def sideBySide : List Nat → Nat
  | [] => 0
  | [depth] => depth
  | depths => depths.foldl max 0 + 1

end SchemaClass.LogFilter.Pattern
