import SchemaClass.Toml.Token
import SchemaClass.Toml.Scalar
/-!
# Reading TOML

The grammar of values and lines.  Lists and tables in brackets may be spread over several lines,
with comments, and may end with a comma; they are nested to a limited depth.  Outside brackets a key
and its value are on one line.

* `readValue`: a value of limited depth;
* `parse?`: the table of a whole text.
-/

namespace SchemaClass.Toml

open Text (Cursor Span)

/-! ## 1. Values -/

/-- Reads a value without brackets. -/
def readScalar (c : Cursor) : Option (Located Value × Cursor) := do
  let (value, d) ←
    match string? c.rest with
    | some (text, rest) => pure (.string (String.ofList text), moveTo c rest)
    | none =>
      let run := scalarRun c.rest
      pure (← scalar? run, moveTo c (c.rest.drop run.length))
  return (⟨stretch c d, value⟩, d)

/-- Reads the items up to a closing bracket, with commas between them.  An item that takes nothing
is refused. -/
def readItems {α : Type} (closing : Char) (read : Cursor → Option (α × Cursor)) (c : Cursor) :
    Option (List α × Cursor) := do
  let start := skipFiller c
  if start.peek? = some closing then return ([], start.next)
  else
    let (a, d) ← read start
    let behind := skipFiller d
    if behind.peek? = some closing then return ([a], behind.next)
    else if behind.peek? = some ',' then
      if behind.next.left < c.left then
        let (as, e) ← readItems closing read behind.next
        return (a :: as, e)
      else none
    else none
termination_by c.left

/-- Reads a dotted key and its value, where `skip` passes what may stand around the equals sign. -/
def readPair (skip : Cursor → Cursor) (read : Cursor → Option (Located Value × Cursor))
    (c : Cursor) : Option ((List Key × Key × Located Value) × Cursor) := do
  let (path, key, d) ← readPath c
  let sign := skip d
  if sign.peek? = some '=' then
    let (item, e) ← read (skip sign.next)
    return ((path, key, item), e)
  else none

/-- Reads a value that is nested up to a depth. -/
def readValue : (depth : Nat) → Cursor → Option (Located Value × Cursor)
  | 0, c => readScalar c
  | depth + 1, c => do
    if c.peek? = some '[' then
      let (items, d) ← readItems ']' (readValue depth) c.next
      return (⟨stretch c d, .array false items⟩, d)
    else if c.peek? = some '\x7b' then
      let (pairs, d) ← readItems '\x7d' (readPair skipFiller (readValue depth)) c.next
      let t ← pairs.foldlM (fun t (path, key, item) => Table.define path key item t)
        (⟨.inline, []⟩ : Table)
      return (⟨stretch c d, .table t⟩, d)
    else readScalar c

/-! ## 2. Lines -/

/-- A document while its lines are read: the table so far and the keys of the last header. -/
structure Draft where
  table : Table := ⟨.header, []⟩
  header : List Key := []

/-- Reads a header, from its brackets on. -/
def readHeader (draft : Draft) (c : Cursor) : Option (Draft × Cursor) := do
  let double := c.next.peek? = some '['
  let inner := if double then c.next.next else c.next
  let (path, key, d) ← readPath inner
  if d.peek? = some ']' then
    if double then
      if d.next.peek? = some ']' then
        let e := d.next.next
        return (⟨← draft.table.openElement path key (stretch c e), path ++ [key]⟩, e)
      else none
    else return (⟨← draft.table.openTable path key (stretch c d.next), path ++ [key]⟩, d.next)
  else none

/-- Reads what a line holds, if anything but blanks and a comment. -/
def readLine (draft : Draft) (c : Cursor) : Option (Draft × Cursor) := do
  match c.peek? with
  | none => return (draft, c)
  | some x =>
    if x = '#' || x = '\n' || x = '\r' then return (draft, c)
    else if x = '[' then readHeader draft c
    else
      let ((path, key, item), d) ← readPair skipBlanks (readValue depthLimit) c
      let t ← draft.table.within false (Table.define path key item) draft.header
      return ({ draft with table := t }, d)

/-- Reads all lines that are left. -/
def readLines (draft : Draft) (c : Cursor) : Option Table := do
  if c.rest.isEmpty then return draft.table
  else
    let (draft, d) ← readLine draft (skipBlanks c)
    let next ← endLine? d
    if next.left < c.left then readLines draft next else none
termination_by c.left

/-- The cursor behind the mark that may open a text. -/
def skipMark (c : Cursor) : Cursor := if c.peek? = some '\ufeff' then c.next else c

/-- The table that a text stands for. -/
def parse? (text : List Char) : Option Table := readLines {} (skipMark (Cursor.start text))

end SchemaClass.Toml
