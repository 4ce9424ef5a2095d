import SchemaClass.Json.Skip
/-!
# Reading values of a wanted shape

A reader takes the value it wants straight from the text, so of two faults the one that comes first
in the text is the one reported.  A record may be written as an object, with its members in any
order and others among them, or as a list of its fields in the order of declaration: the two forms
that `Deserialize` derives.

* `Record`: a record type by its fields, each read into a draft;
* `readRecord`, `readList`, `readOption`, `readText`, `readBoolean`: the readers;
* `readWhole`: a value that takes the whole text.
-/

namespace SchemaClass.Json

open Text (Cursor)

/-! ## 1. Values of another type -/

/-- Refuses the next value because another type was wanted.  A fault inside the value itself comes
first, except in lists and objects, into which nobody looks. -/
def refuse {α : Type} (expected : String) (c : Cursor) : Except Fault α :=
  let wrong (found : Found) (d : Cursor) : Except Fault α :=
    failHere d (.mismatch (.type found expected))
  match c.peek? with
  | none => failAhead c .endInValue
  | some x =>
    if x = 'n' then do wrong .null (← word ['u', 'l', 'l'] c.next)
    else if x = 't' then do wrong (.boolean true) (← word ['r', 'u', 'e'] c.next)
    else if x = 'f' then do wrong (.boolean false) (← word ['a', 'l', 's', 'e'] c.next)
    else if x = '"' then do
      let (s, d) ← readString c.next
      wrong (.string s) d
    else if x = '-' || x.isDigit then do
      let (found, d) ← readNumber c
      wrong found d
    else if x = '[' then wrong .sequence c
    else if x = '\x7b' then wrong .map c
    else failAhead c .noValue

/-! ## 2. Simple values -/

/-- Reads a string. -/
def readText : Reader String := fun c =>
  let c := skipBlanks c
  if c.peek? = some '"' then readString c.next else refuse "a string" c

/-- Reads a truth value. -/
def readBoolean : Reader Bool := fun c =>
  let c := skipBlanks c
  if c.peek? = some 't' then (word ['r', 'u', 'e'] c.next).map (true, ·)
  else if c.peek? = some 'f' then (word ['a', 'l', 's', 'e'] c.next).map (false, ·)
  else refuse "a boolean" c

/-- Reads `null` or a value. -/
def readOption {α : Type} (read : Reader α) : Reader (Option α) := fun c =>
  let c := skipBlanks c
  if c.peek? = some 'n' then (word ['u', 'l', 'l'] c.next).map (none, ·)
  else (read c).map fun (a, d) => (some a, d)

/-- Reads `null` only. -/
def readNull : Reader Unit := fun c =>
  let c := skipBlanks c
  if c.peek? = some 'n' then (word ['u', 'l', 'l'] c.next).map ((), ·) else refuse "unit" c

/-- Reads the key of an object that has just been opened and must not be empty. -/
def readOnlyKey (c : Cursor) : Except Fault (String × Cursor) :=
  let c := skipBlanks c
  match c.peek? with
  | none => failAhead c .endInObject
  | some x =>
    if x = '"' then readString c.next
    else failAhead c (if x = '\x7d' then .noValue else .keyNotString)

/-- Reads one of several names, alone or as the only key of an object that holds `null`. -/
def readVariant {α : Type} (known : List String) (ofName? : String → Option α) : Reader α :=
  fun c =>
  let c := skipBlanks c
  let choose (name : String) (d : Cursor) : Except Fault α :=
    match ofName? name with
    | some a => .ok a
    | none => failHere d (.mismatch (.unknownVariant name known))
  if c.peek? = some '"' then do
    let (name, d) ← readString c.next
    return (← choose name d, d)
  else if c.peek? = some '\x7b' then do
    let (name, d) ← readOnlyKey c.next
    let a ← choose name d
    let (_, d) ← readNull (← colon d)
    let d := skipBlanks d
    if d.peek? = some '\x7d' then return (a, d.next)
    else if d.rest.isEmpty then failHere d .endInObject
    else failHere d .noValue
  else if c.rest.isEmpty then failAhead c .endInValue
  else failAhead c .noValue

/-! ## 3. Lists -/

/-- Finds the next element of a list: `none` before the closing bracket.  `first` says that no
element has been read. -/
def nextElement? (first : Bool) (c : Cursor) : Except Fault (Option Cursor) :=
  let c := skipBlanks c
  match c.peek? with
  | none => failAhead c .endInList
  | some x =>
    if x = ']' then .ok none
    else if first then .ok (some c)
    else if x = ',' then
      let d := skipBlanks c.next
      match d.peek? with
      | none => failAhead d .endInValue
      | some y => if y = ']' then failAhead d .trailingComma else .ok (some d)
    else failAhead c .noListSeparator

/-- Reads the elements of a list.  A reader that takes nothing would never come to an end, and is
refused. -/
def readElements {α : Type} (read : Reader α) (first : Bool) (c : Cursor) :
    Except Fault (List α × Cursor) := do
  match ← nextElement? first c with
  | none => return ([], c)
  | some d =>
    let (a, e) ← read d
    if e.left < c.left then
      let (as, f) ← readElements read false e
      return (a :: as, f)
    else failAhead d .noValue
termination_by c.left

/-- Passes the closing bracket of a list. -/
def endList (c : Cursor) : Except Fault Cursor :=
  let c := skipBlanks c
  match c.peek? with
  | none => failAhead c .endInList
  | some x =>
    if x = ']' then .ok c.next
    else if x = ',' then
      let d := skipBlanks c.next
      failAhead d (if d.peek? = some ']' then .trailingComma else .trailingText)
    else failAhead c .trailingText

/-- Reads a list. -/
def readList {α : Type} (read : Reader α) : Reader (List α) := fun c => do
  let c := skipBlanks c
  if c.peek? = some '[' then
    let (as, d) ← readElements read true c.next
    return (as, ← endList d)
  else refuse "a sequence" c

/-! ## 4. Records -/

/-- What a key means to a draft of a record: nothing, a field that has been read, or a field and
the reader that fills it in. -/
inductive Slot (δ : Type) where
  | unknown
  | taken
  | free (read : Reader δ)

/-- A field of a draft that is filled in by `read`. -/
def Slot.of {δ β : Type} (old : Option β) (read : Reader β) (set : β → δ) : Slot δ :=
  if old.isSome then .taken else .free fun c => (read c).map fun (b, d) => (set b, d)

/-- A record type: how its fields are read into a draft, and what becomes of the draft. -/
structure Record (δ α : Type) where
  /-- How a message names the record. -/
  expected : String
  /-- The keys in the order of declaration. -/
  keys : List String
  /-- The draft in which nothing has been read. -/
  empty : δ
  slot : δ → String → Slot δ
  /-- The record of a draft, or the key that is missing. -/
  finish : δ → Except String α

/-- Finds the key of the next member of an object: `none` before the closing bracket. -/
def nextKey? (first : Bool) (c : Cursor) : Except Fault (Option (String × Cursor)) :=
  let c := skipBlanks c
  let key (d : Cursor) : Except Fault (Option (String × Cursor)) :=
    (readString d.next).map some
  match c.peek? with
  | none => failAhead c .endInObject
  | some x =>
    if x = '\x7d' then .ok none
    else if first then
      if x = '"' then key c else failAhead c .keyNotString
    else if x = ',' then
      let d := skipBlanks c.next
      match d.peek? with
      | none => failAhead d .endInValue
      | some y =>
        if y = '"' then key d
        else failAhead d (if y = '\x7d' then .trailingComma else .keyNotString)
    else failAhead c .noObjectSeparator

/-- The place where a fault of the whole record is noticed: behind its closing bracket, if that
comes next. -/
def pastClosing (closing : Char) (c : Cursor) : Cursor :=
  let c := skipBlanks c
  if c.peek? = some closing then c.next else c

/-- Reads the members of an object into a draft. -/
def readMembers {δ α : Type} (r : Record δ α) (draft : δ) (first : Bool) (c : Cursor) :
    Except Fault (δ × Cursor) := do
  match ← nextKey? first c with
  | none => return (draft, c)
  | some (key, d) =>
    let (draft, e) ←
      match r.slot draft key with
      | .unknown => do
        let e ← passValue (← colon d)
        pure (draft, e)
      | .taken => failHere (pastClosing '\x7d' d) (.mismatch (.duplicateField key))
      | .free read => do read (← colon d)
    if e.left < c.left then readMembers r draft false e
    else failAhead d .noValue
termination_by c.left

/-- Passes the closing bracket of an object. -/
def endObject (c : Cursor) : Except Fault Cursor :=
  let c := skipBlanks c
  match c.peek? with
  | none => failAhead c .endInObject
  | some x =>
    if x = '\x7d' then .ok c.next
    else failAhead c (if x = ',' then .trailingComma else .trailingText)

/-- Reads the elements of a list into the fields of a draft, as far as both go; the count is that
of the fields read. -/
def readColumns {δ α : Type} (r : Record δ α) : List String → δ → Bool → Nat → Cursor →
    Except Fault (δ × Nat × Cursor)
  | [], draft, _, count, c => .ok (draft, count, c)
  | key :: keys, draft, first, count, c => do
    match ← nextElement? first c with
    | none => return (draft, count, c)
    | some d =>
      match r.slot draft key with
      | .free read => do
        let (draft, e) ← read d
        readColumns r keys draft false (count + 1) e
      | _ => return (draft, count, c)

/-- Reads a record from an object or a list. -/
def readRecord {δ α : Type} (r : Record δ α) : Reader α := fun c => do
  let c := skipBlanks c
  if c.peek? = some '\x7b' then
    let (draft, d) ← readMembers r r.empty true c.next
    match r.finish draft with
    | .ok a => return (a, ← endObject d)
    | .error key => failHere (pastClosing '\x7d' d) (.mismatch (.missingField key))
  else if c.peek? = some '[' then
    let (draft, count, d) ← readColumns r r.keys r.empty true 0 c.next
    match r.finish draft with
    | .ok a => return (a, ← endList d)
    | .error _ =>
      failHere (pastClosing ']' d)
        (.mismatch (.length count (Mismatch.elements r.expected r.keys.length)))
  else refuse r.expected c

/-! ## 5. The whole text -/

/-- Reads a value that takes the whole text but for blanks. -/
def readWhole {α : Type} (read : Reader α) (text : List Char) : Except Fault α := do
  let (a, c) ← read (Cursor.start text)
  let c := skipBlanks c
  if c.rest.isEmpty then return a else failAhead c .trailingText

end SchemaClass.Json
