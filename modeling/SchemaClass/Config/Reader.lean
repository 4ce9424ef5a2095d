import SchemaClass.Config.Basic
import SchemaClass.Config.Fault
import SchemaClass.Toml.Parser
/-!
# Reading a configuration

The settings stand in the table `generator`.  A table of settings may also be written as the list of
its values in the order of declaration.  The keys of a table are visited in sorted order, so that
one decides which of several faults is reported.

* `readRecord`: a record from a table or a list;
* `readConfig`: the settings of a text.
-/

namespace SchemaClass.Config

open Toml (Located Value Table Entry)
open Text (Span)

/-- A reader of a value. -/
abbrev Reader (α : Type) := Located Value → Except Fault α

/-- Refuses something at its place. -/
def fail {α : Type} (span : Span) (cause : Cause) : Except Fault α := .error (.shape cause span)

/-! ## 1. Simple values -/

/-- How a message names a value. -/
def found : Value → Found
  | .string s => .string s
  | .integer n => .integer n
  | .float x => .float x
  | .boolean b => .boolean b
  | .array .. => .sequence
  | .moment | .tooLarge | .table _ => .map

/-- Refuses a value because another type was wanted. -/
def refuse {α : Type} (expected : String) : Reader α := fun item =>
  fail item.span (.mismatch (.type (found item.value) expected))

def readText (expected : String) : Reader String := fun item =>
  match item.value with
  | .string s => .ok s
  | _ => refuse expected item

def readPath : Reader Path := fun item => (readText "path string" item).map (⟨·⟩)

def readBoolean : Reader Bool := fun item =>
  match item.value with
  | .boolean b => .ok b
  | _ => refuse "a boolean" item

/-- Checks that nothing is given to a variant. -/
def readEmpty : Reader Unit := fun item =>
  match item.value with
  | .array _ [] => .ok ()
  | .array .. => fail item.span .fullList
  | .table t => if t.entries.isEmpty then .ok () else fail item.span .fullTable
  | .string _ => fail item.span (.payload .string)
  | .integer _ => fail item.span (.payload .integer)
  | .float _ => fail item.span (.payload .float)
  | .boolean _ => fail item.span (.payload .boolean)
  | .moment => fail item.span (.payload .moment)
  | .tooLarge => .error .noToml

/-- Reads a layout: its name, or a table with the name as the only key. -/
def readLayout : Reader Layout := fun item =>
  let choose (name : String) (span : Span) : Except Fault Layout :=
    match Layout.ofExactName? name with
    | some l => .ok l
    | none => fail span (.mismatch (.unknownVariant name Layout.names))
  match item.value with
  | .string s => choose s item.span
  | .table t =>
    match t.entries with
    | [] => fail item.span .noKey
    | [e] => do
      let layout ← choose e.key.name e.key.span
      readEmpty e.item
      return layout
    | _ => fail item.span .moreKeys
  | _ => fail item.span .noVariant

/-! ## 2. Records -/

/-- A record type: how its fields are read into a draft, and what becomes of the draft. -/
structure Record (δ α : Type) where
  /-- How a message names the record. -/
  expected : String
  /-- The keys in the order of declaration. -/
  keys : List String
  /-- The draft in which nothing has been read. -/
  empty : δ
  /-- What the value of a key does to a draft. -/
  set : δ → String → Option (Reader δ)
  /-- The record of a draft, or the key that is missing. -/
  finish : δ → Except String α

/-- The key under which a date shows where a record is wanted. -/
def momentKey : String := "$__toml_private_datetime"

/-- Entries in the order of their keys. -/
def sortedEntries (t : Table) : List (Entry Value) :=
  t.entries.mergeSort fun a b => decide (a.key.name ≤ b.key.name)

/-- Reads the entries of a table into a draft. -/
def readEntries {δ α : Type} (r : Record δ α) (draft : δ) : List (Entry Value) → Except Fault δ
  | [] => .ok draft
  | e :: es =>
    match r.set draft e.key.name with
    | some read => do readEntries r (← read e.item) es
    | none => fail e.key.span (.mismatch (.unknownField e.key.name r.keys))

/-- Reads the elements of a list into the fields of a draft, as far as both go. -/
def readColumns {δ α : Type} (r : Record δ α) (draft : δ) :
    List String → List (Located Value) → Except Fault δ
  | key :: keys, item :: items =>
    match r.set draft key with
    | some read => do readColumns r (← read item) keys items
    | none => .ok draft
  | _, _ => .ok draft

/-- Reads a record from a table or a list. -/
def readRecord {δ α : Type} (r : Record δ α) : Reader α := fun item =>
  match item.value with
  | .table t => do
    match r.finish (← readEntries r r.empty (sortedEntries t)) with
    | .ok a => .ok a
    | .error key => fail item.span (.mismatch (.missingField key))
  | .array _ items => do
    match r.finish (← readColumns r r.empty r.keys items) with
    | .ok a => .ok a
    | .error _ =>
      fail item.span
        (.mismatch (.length items.length (Mismatch.elements r.expected r.keys.length)))
  | .moment => fail item.span (.mismatch (.unknownField momentKey r.keys))
  | _ => refuse r.expected item

/-! ## 3. Settings -/

/-- What has been read of the settings. -/
structure Draft where
  input : Option Path := none
  output : Option Path := none
  layout : Option Layout := none
  swagger : Option Bool := none
  enumModule : Option String := none
  decoratorModule : Option String := none
  dryRun : Option Bool := none

/-- What the keys of the settings mean. -/
def Draft.set (d : Draft) (key : String) : Option (Reader Draft) :=
  let entry {β : Type} (read : Reader β) (put : β → Draft) : Option (Reader Draft) :=
    some fun item => (read item).map put
  if key = "input" then entry readPath fun v => { d with input := some v }
  else if key = "output" then entry readPath fun v => { d with output := some v }
  else if key = "layout" then entry readLayout fun v => { d with layout := some v }
  else if key = "swagger" then entry readBoolean fun v => { d with swagger := some v }
  else if key = "enum_module" then
    entry (readText "a string") fun v => { d with enumModule := some v }
  else if key = "decorator_module" then
    entry (readText "a string") fun v => { d with decoratorModule := some v }
  else if key = "dry_run" then entry readBoolean fun v => { d with dryRun := some v }
  else none

/-- The settings of a draft: only the document has to be named. -/
def Draft.finish (d : Draft) : Except String Config :=
  match d.input with
  | none => .error "input"
  | some input =>
    let base : Config := { input }
    .ok
      { input
        output := d.output.getD base.output
        layout := d.layout.getD base.layout
        swagger := d.swagger.getD base.swagger
        enumModule := d.enumModule.getD base.enumModule
        decoratorModule := d.decoratorModule.getD base.decoratorModule
        dryRun := d.dryRun.getD base.dryRun }

/-- The settings as a record. -/
def settingsRecord : Record Draft Config where
  expected := "struct GeneratorConfig"
  keys := ["input", "output", "layout", "swagger", "enum_module", "decorator_module", "dry_run"]
  empty := {}
  set := Draft.set
  finish := Draft.finish

/-- The whole text as a record. -/
def rootRecord : Record (Option Config) Config where
  expected := "struct Config"
  keys := ["generator"]
  empty := none
  set := fun _ key =>
    if key = "generator" then some fun item => (readRecord settingsRecord item).map some else none
  finish := fun d => match d with
    | none => .error "generator"
    | some c => .ok c

/-- The settings of a text, before they are checked.  A text with a number that is too large is no
TOML, but that is only noticed if the settings cannot be read. -/
def readConfig (text : List Char) : Except Fault Config :=
  match Toml.parse? text with
  | none => .error .noToml
  | some t =>
    (readRecord rootRecord ⟨⟨0, 0⟩, .table t⟩).mapError fun fault =>
      if (Value.table t).holdsTooLarge then .noToml else fault

end SchemaClass.Config
