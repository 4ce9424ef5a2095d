/-!
# Paths

A path is not always a text: what a system takes for one are bytes, and bytes that are the text of
no character may stand anywhere in it.  A path keeps all of them and is read as a list of parts.
Repeated and trailing slashes separate nothing, and a `.` counts only as the first part of a
relative path; two paths with the same parts name the same place.  Where a path is shown, or written
into a text, the replacement character stands for what is no text.

* `PathChar`: characters, and bytes in their place; `PathChar.text`: how they are shown;
* `parts`: the reading; `ofParts`: its plainest spelling;
* `join`, `parent?`, `relativeTo?`: they keep the spelling of what they keep;
* `normalize`: the path without `.` parts, with `..` resolved as far as that goes;
* `take_here`, `take_name`, `take_up_name`: what one more step does to a place.
-/

namespace SchemaClass

/-! ## 1. What paths are made of -/

/-- A character of a path, or bytes in its place: as many as a reader of text gives up at once. -/
inductive PathChar where
  | char (c : Char)
  | stray (bytes : List UInt8)
  deriving DecidableEq, Repr

namespace PathChar

/-- What separates the names of a path. -/
@[match_pattern] abbrev slash : PathChar := char '/'

@[match_pattern] abbrev dot : PathChar := char '.'

/-- The character that is shown. -/
def shown : PathChar → Char
  | char c => c
  | stray _ => '\ufffd'

/-- How many bytes there are. -/
def size : PathChar → Nat
  | char c => c.utf8Size
  | stray bytes => bytes.length

/-- The characters of a text. -/
def ofText (s : String) : List PathChar := s.toList.map char

/-- The text that is shown. -/
def text (cs : List PathChar) : String := String.ofList (cs.map shown)

@[simp] theorem text_ofText (s : String) : text (ofText s) = s := by
  simp [text, ofText, Function.comp_def, shown]

@[simp] theorem map_text_ofText (ss : List String) : (ss.map ofText).map text = ss := by
  simp [Function.comp_def]

@[simp] theorem ofText_empty : ofText "" = [] := rfl

theorem ofText_inj {s t : String} : ofText s = ofText t ↔ s = t :=
  ⟨fun h => by rw [← text_ofText s, h, text_ofText], congrArg ofText⟩

@[simp] theorem ofText_append (s t : String) : ofText (s ++ t) = ofText s ++ ofText t := by
  simp [ofText]

@[simp] theorem text_append (cs ds : List PathChar) : text (cs ++ ds) = text cs ++ text ds := by
  simp [text]

@[simp] theorem char_mem_ofText {c : Char} {s : String} : char c ∈ ofText s ↔ c ∈ s.toList := by
  simp [ofText]

end PathChar

instance : Coe String (List PathChar) := ⟨PathChar.ofText⟩

instance : Coe (List String) (List (List PathChar)) := ⟨List.map PathChar.ofText⟩

open PathChar (slash dot)

/-- A path, as it was written. -/
structure Path where
  chars : List PathChar
  deriving DecidableEq, Repr

namespace Path

/-- How a path is shown. -/
def text (p : Path) : String := PathChar.text p.chars

/-- One step of a path: the root, the directory itself, the directory above, or a name in it. -/
inductive Part where
  | root
  | here
  | up
  | name (chars : List PathChar)
  deriving DecidableEq, Repr

/-- How a part is written. -/
def Part.chars : Part → List PathChar
  | .root => [slash]
  | .here => [dot]
  | .up => [dot, dot]
  | .name cs => cs

/-- How a part is shown. -/
def Part.text (part : Part) : String := PathChar.text part.chars

/-! ## 2. Reading a path -/

/-- What stands between slashes. -/
def segments (p : Path) : List (List PathChar) := p.chars.splitOn slash

/-- Segments that are no step: nothing between two slashes, or a dot. -/
def isIdle (segment : List PathChar) : Bool := segment == [] || segment == [dot]

/-- The step that a segment stands for. -/
def Part.ofSegment? (segment : List PathChar) : Option Part :=
  if isIdle segment then none
  else if segment = [dot, dot] then some .up
  else some (.name segment)

/-- A path from the root. -/
def isAbsolute (p : Path) : Bool := p.chars.head? == some slash

/-- What a path begins with apart from names: the root, or a leading dot. -/
def lead (p : Path) : List Part :=
  if p.isAbsolute then [.root] else if p.segments.head? = some [dot] then [.here] else []

/-- The steps of a path. -/
def parts (p : Path) : List Part := p.lead ++ p.segments.filterMap Part.ofSegment?

/-- Two paths with the same steps. -/
def SamePlace (p q : Path) : Prop := p.parts = q.parts

instance (p q : Path) : Decidable (SamePlace p q) :=
  inferInstanceAs (Decidable (p.parts = q.parts))

/-! ## 3. Writing a path -/

/-- Segments with a slash between neighbours. -/
def ofSegments (segments : List (List PathChar)) : Path := ⟨[slash].intercalate segments⟩

/-- `q`, read from the directory `p`.  An absolute `q` stands on its own. -/
def join (p q : Path) : Path :=
  if q.isAbsolute then q
  else if p.chars.getLast?.all (· == slash) then ⟨p.chars ++ q.chars⟩
  else ⟨p.chars ++ slash :: q.chars⟩

/-- The path of a list of steps. -/
def ofParts (ps : List Part) : Path :=
  ps.foldl (fun path part => path.join ⟨part.chars⟩) ⟨[]⟩

/-! ## 4. Above and below -/

/-- Segments without the idle ones at their end. -/
def dropIdleEnd (segments : List (List PathChar)) : List (List PathChar) :=
  (segments.reverse.dropWhile isIdle).reverse

/-- A path from its first segment and those behind it, where the first segment is kept whatever it
is. -/
def ofHead (head : List PathChar) (tail : List (List PathChar)) : Path :=
  if tail.isEmpty then (if head.isEmpty then ⟨[slash]⟩ else ofSegments [head])
  else ofSegments (head :: tail)

/-- The path without its last step; the root and the empty path have none. -/
def parent? (p : Path) : Option Path :=
  match p.segments with
  | [] => none
  | head :: tail =>
    match tail.reverse.dropWhile isIdle with
    | _ :: above => some (ofHead head (dropIdleEnd above.reverse))
    | [] => if head.isEmpty then none else some ⟨[]⟩

/-- The segments behind the first `n` that are steps. -/
def behindSteps : Nat → List (List PathChar) → List (List PathChar)
  | 0, segments => segments
  | _ + 1, [] => []
  | n + 1, s :: segments => behindSteps (if isIdle s then n + 1 else n) segments

/-- The path from `base` on, if the steps of `base` come first. -/
def relativeTo? (p base : Path) : Option Path :=
  if base.parts.isPrefixOf p.parts then
    match p.segments, base.parts.length with
    | [], _ => some p
    | head :: tail, 0 =>
      some (if p.chars.isEmpty then p else ofHead head (dropIdleEnd tail))
    | _ :: tail, n + 1 => some (ofSegments (dropIdleEnd ((behindSteps n tail).dropWhile isIdle)))
  else none

/-! ## 5. Normal form -/

/-- Takes one more step from a place, given as its steps in reverse.  A `..` takes back a name,
stays at the root, and is kept where there is nothing to take back. -/
def take : List Part → Part → List Part
  | out, .here => out
  | .name _ :: out, .up => out
  | .root :: out, .up => .root :: out
  | out, part => part :: out

/-- The steps of the normal form. -/
def normalizeParts (ps : List Part) : List Part := (ps.foldl take []).reverse

/-- The path with `.` and `..` resolved on paper, without a look at any file. -/
def normalize (p : Path) : Path := ofParts (normalizeParts p.parts)

@[simp] theorem take_here (out : List Part) : take out .here = out := rfl

@[simp] theorem take_name (out : List Part) (s : List PathChar) :
    take out (.name s) = .name s :: out := by
  cases out with
  | nil => rfl
  | cons part out => cases part <;> rfl

@[simp] theorem take_up_name (s : List PathChar) (out : List Part) :
    take (.name s :: out) .up = out := rfl

@[simp] theorem take_up_root (out : List Part) :
    take (.root :: out) .up = .root :: out := rfl

/-! ## 6. Anchoring a path -/

/-- Whether exactly two slashes open the path, which keeps them. -/
def hasDoubleRoot (p : Path) : Bool :=
  match p.chars with
  | slash :: slash :: slash :: _ => false
  | slash :: slash :: _ => true
  | _ => false

/-- The path read from the directory `base`, step by step; `..` is left in place, and so is a
trailing slash. -/
def absolute (base p : Path) : Path :=
  let steps := match p.parts with
    | .here :: steps => steps
    | steps => steps
  let anchored :=
    if p.hasDoubleRoot then
      steps.tail.foldl (fun path part => path.join ⟨part.chars⟩) ⟨[slash, slash]⟩
    else steps.foldl (fun path part => path.join ⟨part.chars⟩) base
  if p.chars.getLast? == some slash then anchored.join ⟨[]⟩ else anchored

end Path

end SchemaClass
