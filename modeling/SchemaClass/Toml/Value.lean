import SchemaClass.Number.Binary64
import SchemaClass.Text.Position
/-!
# TOML values

A TOML text is a table, read as `toml` reads it.  Every key and every value keeps the place where it
was written, and every table the way in which it came to be, since that decides what may still be
added to it.

* `Table.within`: the change of one table inside another, along a path of keys;
* `Table.define`, `Table.openTable`, `Table.openElement`: the three ways in which a line of the
  text adds to the document.
-/

namespace SchemaClass.Toml

open Text (Span)

/-- How a table came to be. -/
inductive Origin where
  /-- Written as `[a.b]`, or the document itself. -/
  | header
  /-- On the way to a header, such as `a` in `[a.b]`. -/
  | implied
  /-- On the way to a key, such as `a` in `a.b = 1`. -/
  | dotted
  /-- Written in braces. -/
  | inline
  deriving DecidableEq, Repr

/-- Something and where it is written. -/
structure Located (α : Type) where
  span : Span
  value : α
  deriving DecidableEq, Repr

/-- A key and where it is written. -/
structure Key where
  name : String
  span : Span
  deriving DecidableEq, Repr

/-- A key with what is stored under it. -/
structure Entry (α : Type) where
  key : Key
  item : Located α
  deriving DecidableEq, Repr

/-- Entries in the order in which they were added. -/
structure TableOf (α : Type) where
  origin : Origin
  entries : List (Entry α) := []
  deriving DecidableEq, Repr

/-- What can be stored under a key. -/
inductive Value where
  | string (text : String)
  | integer (number : Int)
  | float (number : Binary64)
  | boolean (truth : Bool)
  /-- A number that no type of number holds. -/
  | tooLarge
  /-- A date, a time or both; nothing depends on which moment it is. -/
  | moment
  /-- A list, written in brackets or as headers in double brackets. -/
  | array (byHeaders : Bool) (items : List (Located Value))
  | table (t : TableOf Value)

/-- Tables of values. -/
abbrev Table := TableOf Value

mutual

/-- Whether there is a number in a value that is too large. -/
def Value.holdsTooLarge : Value → Bool
  | .tooLarge => true
  | .array _ items => itemsHoldTooLarge items
  | .table ⟨_, entries⟩ => entriesHoldTooLarge entries
  | _ => false

/-- Whether there is such a number in one of several values. -/
def itemsHoldTooLarge : List (Located Value) → Bool
  | [] => false
  | ⟨_, value⟩ :: items => value.holdsTooLarge || itemsHoldTooLarge items

/-- Whether there is such a number under one of several keys. -/
def entriesHoldTooLarge : List (Entry Value) → Bool
  | [] => false
  | ⟨_, ⟨_, value⟩⟩ :: entries => value.holdsTooLarge || entriesHoldTooLarge entries

end

namespace Table

/-- The entry of a key. -/
def entry? (t : Table) (name : String) : Option (Entry Value) :=
  t.entries.find? (·.key.name == name)

/-- Adds an entry at the end. -/
def add (t : Table) (key : Key) (item : Located Value) : Table :=
  { t with entries := t.entries ++ [⟨key, item⟩] }

/-- Stores another value under a key that is there. -/
def set (t : Table) (name : String) (value : Value) : Table :=
  { t with entries := t.entries.map fun e =>
      if e.key.name == name then { e with item := { e.item with value } } else e }

/-- Takes an entry out. -/
def remove (t : Table) (name : String) : Table :=
  { t with entries := t.entries.filter (·.key.name != name) }

/-- Whether a path of keys may lead through a table.  A dotted key does not reopen a table that has
a header. -/
def isPassable (dotted : Bool) : Origin → Bool
  | .inline => false
  | .header => !dotted
  | .implied | .dotted => true

/-- Changes the table that a path leads to.  Tables on the way that are missing are made; a list of
tables is entered at its last element. -/
def within (dotted : Bool) (change : Table → Option Table) : List Key → Table → Option Table
  | [], t => change t
  | k :: ks, t =>
    match t.entry? k.name with
    | none => do
      let inner ← within dotted change ks ⟨if dotted then .dotted else .implied, []⟩
      return t.add k ⟨k.span, .table inner⟩
    | some e =>
      match e.item.value with
      | .table inner =>
        if isPassable dotted inner.origin then do
          return t.set k.name (.table (← within dotted change ks inner))
        else none
      | .array true items =>
        match items.getLast? with
        | some ⟨span, .table inner⟩ => do
          let inner ← within dotted change ks inner
          return t.set k.name (.array true (items.dropLast ++ [⟨span, .table inner⟩]))
        | _ => none
      | _ => none

/-- Stores a value under a dotted key: `path` leads to the table, `key` is the last part.  The
table must be one that dotted keys have made, unless the path is empty. -/
def define (path : List Key) (key : Key) (item : Located Value) : Table → Option Table :=
  within true (fun t =>
    if (t.origin == .dotted) == path.isEmpty || (t.entry? key.name).isSome then none
    else some (t.add key item)) path

/-- Opens the table of a header.  A table that was only implied so far is taken over. -/
def openTable (path : List Key) (key : Key) (span : Span) : Table → Option Table :=
  within false (fun t =>
    match t.entry? key.name with
    | none => some (t.add key ⟨span, .table ⟨.header, []⟩⟩)
    | some e =>
      match e.item.value with
      | .table ⟨.implied, entries⟩ =>
        some ((t.remove key.name).add key ⟨span, .table ⟨.header, entries⟩⟩)
      | _ => none) path

/-- Opens one more element of the list of a header in double brackets. -/
def openElement (path : List Key) (key : Key) (span : Span) : Table → Option Table :=
  let fresh : Located Value := ⟨span, .table ⟨.header, []⟩⟩
  within false (fun t =>
    match t.entry? key.name with
    | none => some (t.add key ⟨span, .array true [fresh]⟩)
    | some e =>
      match e.item.value with
      | .array true items => some (t.set key.name (.array true (items ++ [fresh])))
      | _ => none) path

end Table

end SchemaClass.Toml
