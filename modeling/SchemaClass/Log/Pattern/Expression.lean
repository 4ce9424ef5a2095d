import SchemaClass.Log.Pattern.Bracket
import SchemaClass.Text.Alphanumeric
/-!
# Patterns

A pattern is read from left to right, while the groups around the place that has been reached are
kept.  What is left of a part that has been read is how deep it is nested, since patterns may not
be nested too deep, and whether it can be repeated.

* `readGroup`: how a group begins;
* `depth?`: how deep a pattern is nested, if a text is one.
-/

namespace SchemaClass.LogFilter.Pattern

/-- A part that has been read. -/
structure Part where
  depth : Nat := 0
  /-- Whether it can be repeated; only a change of flags cannot. -/
  isRepeatable : Bool := true
  deriving DecidableEq, Repr

/-- What has been read of a group or of the whole pattern. -/
structure Body where
  /-- How deep the branches are nested that are complete. -/
  branches : List Nat := []
  /-- The parts of the last branch, last first. -/
  parts : List Part := []
  deriving DecidableEq, Repr

namespace Body

def push (b : Body) (p : Part) : Body := { b with parts := p :: b.parts }

/-- How deep the last branch is nested. -/
def branchDepth (b : Body) : Nat := sideBySide (b.parts.map (·.depth))

/-- How deep all branches are nested. -/
def depth (b : Body) : Nat := sideBySide (b.branchDepth :: b.branches)

/-- Begins another branch. -/
def branch (b : Body) : Body := { branches := b.branchDepth :: b.branches }

/-- Repeats the last part. -/
def repeatLast (b : Body) : Option Body :=
  match b.parts with
  | p :: ps =>
    if p.isRepeatable then some { b with parts := { depth := p.depth + 1 } :: ps } else none
  | [] => none

end Body

/-- A place in a pattern. -/
structure State where
  flags : Flags := {}
  /-- The names of the groups so far. -/
  names : List (List Char) := []
  /-- The groups around the place, innermost first: the flags and what stands before them. -/
  outer : List (Flags × Body) := []
  body : Body := {}

namespace State

def push (s : State) (p : Part) : State := { s with body := s.body.push p }

/-- Enters a group with flags. -/
def enter (s : State) (flags : Flags) : State :=
  { s with flags, outer := (s.flags, s.body) :: s.outer, body := {} }

/-- Leaves a group, and with it the flags that were changed inside. -/
def leave (s : State) : Option State :=
  match s.outer with
  | (flags, before) :: outer =>
    some { s with flags, outer, body := before.push { depth := s.body.depth + 1 } }
  | [] => none

/-- Adds an atom, if it can be matched. -/
def atom (s : State) (a : Atom) : Option State :=
  if a.isMatchable s.flags then some (s.push {}) else none

end State

/-! ## 1. Groups -/

/-- Changes of flags and the character that ends them. -/
structure FlagChange where
  flags : Flags
  isEmpty : Bool
  last : Char

/-- Reads letters of flags; those behind a hyphen are switched off.  Nothing may come twice, and
something has to follow the hyphen. -/
def readFlags (seen : List Char) (value : Bool) (f : Flags) :
    List Char → Option (FlagChange × List Char)
  | [] => none
  | c :: rest =>
    if c = ':' || c = ')' then
      if seen.head? = some '-' then none else some (⟨f, seen.isEmpty, c⟩, rest)
    else if seen.contains c then none
    else if c = '-' then readFlags (c :: seen) false f rest
    else if Flags.letters.contains c then readFlags (c :: seen) value (f.set c value) rest
    else none

/-- Whether a group can have a name. -/
def isName : List Char → Bool
  | [] => false
  | c :: cs =>
    (c == '_' || Text.Alphanumeric.isAlphabetic c) &&
      cs.all fun c =>
        c == '_' || c == '.' || c == '[' || c == ']' || Text.Alphanumeric.isAlphanumeric c

/-- Reads the name of a group, which must be new. -/
def readName (s : State) (cs : List Char) : Option (State × List Char) :=
  let name := cs.takeWhile (· != '>')
  match cs.drop name.length with
  | _ :: rest =>
    if isName name && !s.names.contains name then
      some ({ s.enter s.flags with names := name :: s.names }, rest)
    else none
  | [] => none

/-- Reads what follows a parenthesis: a name, flags for the group, flags for what follows, or
already what is in the group. -/
def readGroup (s : State) (cs : List Char) : Option (State × List Char) :=
  match s.flags.skipSpace cs with
  | '?' :: 'P' :: '<' :: rest | '?' :: '<' :: rest => readName s rest
  | '?' :: rest => do
    let (change, rest) ← readFlags [] true s.flags rest
    if change.last = ':' then some (s.enter change.flags, rest)
    else if change.isEmpty then none
    else some ({ s with flags := change.flags }.push { isRepeatable := false }, rest)
  | rest => some (s.enter s.flags, rest)

/-! ## 2. The whole pattern -/

/-- Passes the mark of a repetition that prefers to be short. -/
def skipLazy : List Char → List Char
  | '?' :: rest => rest
  | rest => rest

/-- Reads one part, which begins with a character.  An opening brace would begin a count, but the
brace that closes it cannot be in a value. -/
def readPart (s : State) (c : Char) (rest : List Char) : Option (State × List Char) :=
  if c = '(' then readGroup s rest
  else if c = ')' then s.leave.map (·, rest)
  else if c = '|' then some ({ s with body := s.body.branch }, rest)
  else if c = '[' then (readClass s.flags rest).map fun (depth, rest) => (s.push { depth }, rest)
  else if c = '*' || c = '+' || c = '?' then
    s.body.repeatLast.map fun body => ({ s with body }, skipLazy rest)
  else if c = '\x7b' then none
  else if c = '.' then (s.atom .any).map (·, rest)
  else if c = '^' || c = '$' then (s.atom .edge).map (·, rest)
  else if c = '\\' then do
    let (a, rest) ← readEscape s.flags rest
    (s.atom a).map (·, rest)
  else (s.atom (.literal c false)).map (·, rest)

/-- Reads all parts: how deep the pattern is nested. -/
def readParts : (fuel : Nat) → State → List Char → Option Nat
  | 0, _, _ => none
  | fuel + 1, s, cs =>
    match s.flags.skipSpace cs with
    | [] => if s.outer.isEmpty then some s.body.depth else none
    | c :: rest => do
      let (s, rest) ← readPart s c rest
      readParts fuel s rest

/-- How deep a pattern is nested; `none` if a text is no pattern. -/
def depth? (text : List Char) : Option Nat := readParts (text.length + 1) {} text

/-- How deep a pattern may be nested. -/
def depthLimit : Nat := 250

end SchemaClass.LogFilter.Pattern
