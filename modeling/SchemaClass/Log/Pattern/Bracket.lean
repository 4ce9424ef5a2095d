import SchemaClass.Log.Pattern.Atom
/-!
# Classes in brackets

A class lists characters and ranges, named classes and further classes in brackets, and combines
them with operators.  A bracket or a hyphen at its beginning stands for itself.

* `readClass`: a class behind its opening bracket, and how deep it is nested.
-/

namespace SchemaClass.LogFilter.Pattern

/-! ## 1. Members -/

/-- Reads one end of a range, or a member by itself. -/
def readEnd (f : Flags) : List Char → Option (Atom × List Char)
  | [] => none
  | '\\' :: rest => readEscape f rest
  | c :: rest => some (.literal c false, rest)

/-- The character that decides whether a hyphen, behind which `cs` stands, is part of a range.
Where comments are allowed, only the number sign of one is passed, not its text. -/
def behindHyphen? (f : Flags) (cs : List Char) : Option Char :=
  if f.spaced then
    match cs.dropWhile Text.isBlank with
    | [] => cs.head?
    | '#' :: rest => (rest.dropWhile Text.isBlank).head? <|> cs.head?
    | c :: _ => some c
  else cs.head?

/-- Reads a character, a short name of a class, or a range. -/
def readMember (f : Flags) (cs : List Char) : Option (List Char) := do
  let (low, rest) ← readEnd f cs
  if !low.isMember f then none
  else
    match f.skipSpace rest with
    | '-' :: behind =>
      let next := behindHyphen? f behind
      if next = some ']' || next = some '-' then some ('-' :: behind)
      else
        let (high, rest) ← readEnd f (f.skipSpace behind)
        match low, high with
        | .literal l _, .literal h _ => if high.isMember f && l ≤ h then some rest else none
        | _, _ => none
    | rest => some rest

/-- The names that a class can have. -/
def classNames : List (List Char) :=
  ["alnum", "alpha", "ascii", "blank", "cntrl", "digit", "graph", "lower", "print", "punct",
    "space", "upper", "word", "xdigit"].map String.toList

/-- Reads a named class behind its opening bracket: whether it is negated, and what follows it. -/
def namedClass? : List Char → Option (Bool × List Char)
  | ':' :: cs =>
    let (negated, cs) := match cs with
      | '^' :: rest => (true, rest)
      | cs => (false, cs)
    let name := cs.takeWhile (· != ':')
    match cs.drop name.length with
    | ':' :: ']' :: rest => if classNames.contains name then some (negated, rest) else none
    | _ => none
  | _ => none

/-- Whether a named class can be matched under flags. -/
def Flags.allowsNamed (f : Flags) (negated : Bool) : Bool :=
  if f.unicode then !f.ignoreCase else !negated

/-! ## 2. Brackets -/

/-- A class that has been opened: how deep its parts since the last operator are nested, last
first, and what stands before that operator. -/
structure Level where
  parts : List Nat := []
  left? : Option Nat := none
  deriving DecidableEq, Repr

namespace Level

def add (l : Level) (depth : Nat) : Level := { l with parts := depth :: l.parts }

/-- How deep all that has been read is nested.  Operators associate to the left. -/
def depth (l : Level) : Nat :=
  match l.left? with
  | none => sideBySide l.parts
  | some left => max left (sideBySide l.parts) + 1

/-- Behind an operator. -/
def operate (l : Level) : Level := { left? := some l.depth }

end Level

/-- Passes the hyphens that a class begins with, and counts them. -/
def leadingHyphens (f : Flags) : (fuel : Nat) → List Char → Nat × List Char
  | fuel + 1, '-' :: rest =>
    let (n, rest) := leadingHyphens f fuel (f.skipSpace rest)
    (n + 1, rest)
  | _, cs => (0, cs)

/-- Reads the beginning of a class behind its opening bracket.  All but some bytes would be half a
character, so only classes of characters can be negated. -/
def openClass (f : Flags) (cs : List Char) : Option (Level × List Char) :=
  let (negated, cs) := match f.skipSpace cs with
    | '^' :: rest => (true, f.skipSpace rest)
    | cs => (false, cs)
  if negated && !f.unicode then none
  else
    let (hyphens, cs) := leadingHyphens f cs.length cs
    let (count, cs) := match hyphens, cs with
      | 0, ']' :: rest => (1, rest)
      | n, cs => (n, cs)
    if count = 0 || (Atom.literal '-' false).isMember f then
      some ({ parts := List.replicate count 0 }, cs)
    else none

/-- Reads classes up to the bracket that closes the outermost one: how deep it is nested, and what
follows it. -/
def readLevels (f : Flags) : (fuel : Nat) → (outer : List Level) → Level → List Char →
    Option (Nat × List Char)
  | 0, _, _, _ => none
  | fuel + 1, outer, level, cs =>
    match f.skipSpace cs with
    | [] => none
    | '[' :: rest =>
      match namedClass? rest with
      | some (negated, rest) =>
        if f.allowsNamed negated then readLevels f fuel outer (level.add 0) rest else none
      | none => do
        let (inner, rest) ← openClass f rest
        readLevels f fuel (level :: outer) inner rest
    | ']' :: rest =>
      match outer with
      | [] => some (level.depth + 1, rest)
      | around :: outer => readLevels f fuel outer (around.add (level.depth + 1)) rest
    | '&' :: '&' :: rest | '-' :: '-' :: rest | '~' :: '~' :: rest =>
      readLevels f fuel outer level.operate rest
    | cs => do readLevels f fuel outer (level.add 0) (← readMember f cs)

/-- Reads a class behind its opening bracket. -/
def readClass (f : Flags) (cs : List Char) : Option (Nat × List Char) := do
  let (level, rest) ← openClass f cs
  readLevels f (rest.length + 1) [] level rest

end SchemaClass.LogFilter.Pattern
