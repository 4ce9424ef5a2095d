import SchemaClass.OrderedSet
import SchemaClass.Text.Search
/-!
# Imports

The imports of one file: for every origin the symbols that come from it, both in the order of first
registration.  While files have no place yet, an import of another class comes from a placeholder
that names the entity.

* `ImportList.register`: adds a symbol to the record of its origin, or a record;
* `ImportList.resolveWith`: replaces the placeholders by what is answered for their targets, all of
  them or none;
* `target?_placeholder`: a placeholder names its entity.
-/

namespace SchemaClass

/-! ## 1. Records -/

/-- What placeholders begin with (`PLACEHOLDER_PREFIX`).  No module has such a name. -/
def placeholderPrefix : String := "__TEMPORARY_CLASS_PATH__"

/-- The origin that stands for the file of an entity (`placeholder_origin`). -/
def placeholder (entity : String) : String := placeholderPrefix ++ entity

/-- The entity that an origin stands for, if it is a placeholder (`placeholder_target`). -/
def placeholderTarget? (origin : String) : Option String :=
  (Text.dropToken? placeholderPrefix.toList origin.toList).map String.ofList

theorem placeholderTarget?_placeholder (entity : String) :
    placeholderTarget? (placeholder entity) = some entity := by
  have h : Text.dropToken? placeholderPrefix.toList
      (placeholderPrefix.toList ++ entity.toList) = some entity.toList :=
    Text.dropToken?_eq_some.2 rfl
  simp [placeholderTarget?, placeholder, h]

/-- The symbols that a file imports from one origin. -/
structure ImportRecord where
  origin : String
  symbols : List String := []
  deriving DecidableEq, Repr

namespace ImportRecord

/-- Adds a symbol, unless it is there. -/
def merge (r : ImportRecord) (symbol : String) : ImportRecord :=
  { r with symbols := OrderedSet.insertNew r.symbols symbol }

def hasSymbol (r : ImportRecord) (symbol : String) : Bool := r.symbols.contains symbol

/-- The entity that a record waits for. -/
def target? (r : ImportRecord) : Option String := placeholderTarget? r.origin

def isPlaceholder (r : ImportRecord) : Bool := r.target?.isSome

@[simp] theorem origin_merge (r : ImportRecord) (symbol : String) :
    (r.merge symbol).origin = r.origin := rfl

theorem target?_placeholder (entity : String) (symbols : List String) :
    (ImportRecord.mk (placeholder entity) symbols).target? = some entity :=
  placeholderTarget?_placeholder entity

end ImportRecord

/-! ## 2. Lists of records -/

/-- The records of a file. -/
structure ImportList where
  records : List ImportRecord := []
  deriving DecidableEq, Repr

namespace ImportList

/-- The record of an origin. -/
def get? (l : ImportList) (origin : String) : Option ImportRecord :=
  l.records.find? (·.origin == origin)

def hasSymbol (l : ImportList) (origin symbol : String) : Bool :=
  (l.get? origin).any (·.hasSymbol symbol)

/-- Imports a symbol from an origin. -/
def register (l : ImportList) (symbol origin : String) : ImportList :=
  if l.records.any (·.origin == origin) then
    ⟨l.records.map fun r => if r.origin == origin then r.merge symbol else r⟩
  else ⟨l.records ++ [ImportRecord.mk origin [symbol]]⟩

/-- Imports several symbols, each with its origin. -/
def registerAll (l : ImportList) (pairs : List (String × String)) : ImportList :=
  pairs.foldl (fun l (symbol, origin) => l.register symbol origin) l

/-- The symbols with their origins, in order. -/
def pairs (l : ImportList) : List (String × String) :=
  l.records.flatMap fun r => r.symbols.map (·, r.origin)

/-- The records that wait for an entity. -/
def unresolved (l : ImportList) : List ImportRecord := l.records.filter (·.isPlaceholder)

/-- A record with the origin that `ask` answers for its target, if it waits for one. -/
def resolveRecord {m : Type → Type} [Monad m] (ask : String → m String) (r : ImportRecord) :
    m ImportRecord :=
  match r.target? with
  | none => pure r
  | some target => do return { r with origin := ← ask target }

/-- Gives every placeholder the origin that `ask` answers for its target, in the order of the
list; counts them (`rewrite_placeholders`).  Records that come to share an origin become one. -/
def resolveWith {m : Type → Type} [Monad m] (ask : String → m String) (l : ImportList) :
    m (ImportList × Nat) := do
  let records ← l.records.mapM (resolveRecord ask)
  let count := l.unresolved.length
  if count = 0 then return (l, 0)
  else return (({} : ImportList).registerAll (pairs ⟨records⟩), count)

end ImportList

end SchemaClass
