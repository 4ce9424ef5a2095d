import SchemaClass.Text.LetterCase
/-!
# Output layouts

How class files are arranged under the output directory.

* `ofName?_name`: a layout is found under its own name, and in any other letter case.
-/

namespace SchemaClass

/-- The arrangement of class files. -/
inductive Layout where
  /-- Every class file in the output directory. -/
  | flat
  /-- One directory for each class. -/
  | nested
  deriving DecidableEq, Repr

namespace Layout

/-- The name of a layout. -/
def name : Layout → String
  | flat => "flat"
  | nested => "nested"

/-- The names of all layouts. -/
def names : List String := ["flat", "nested"]

/-- The layout that is spelled exactly so. -/
def ofExactName? (s : String) : Option Layout :=
  if s = "flat" then some flat else if s = "nested" then some nested else none

/-- The layout of a name in any letter case. -/
def ofName? (s : String) : Option Layout :=
  ofExactName? (String.ofList (s.toList.flatMap Text.LetterCase.lower))

/-- What is said of a name that is no layout. -/
def unknownMessage (name : String) : String :=
  s!"unknown layout '{name}', expected 'flat' or 'nested'"

theorem ofExactName?_name (l : Layout) : ofExactName? l.name = some l := by
  cases l <;> decide

theorem ofName?_name (l : Layout) : ofName? l.name = some l := by
  cases l <;> decide

end Layout

end SchemaClass
