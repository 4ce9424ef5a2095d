import SchemaClass.Naming
/-!
# Scalar types

The primitive types that a schema can name, free of any target language, and the mapping of a
target language from them to its own type names.

* `ofName?_name`: every scalar is found under its name;
* `ofName?_eq_some_iff`: and under no other.
-/

namespace SchemaClass

/-- The primitive field types of a schema (`ScalarType`). -/
inductive Scalar where
  | int
  | string
  | dateTime
  | boolean
  | json
  | bigInt
  | float
  | decimal
  | bytes
  deriving DecidableEq, Repr

namespace Scalar

/-- Every scalar, in the order in which a name is looked up (`ALL`). -/
def all : List Scalar :=
  [.int, .string, .dateTime, .boolean, .json, .bigInt, .float, .decimal, .bytes]

/-- The name of a scalar in a schema (`as_str`). -/
def name : Scalar → String
  | int => "Int"
  | string => "String"
  | dateTime => "DateTime"
  | boolean => "Boolean"
  | json => "Json"
  | bigInt => "BigInt"
  | float => "Float"
  | decimal => "Decimal"
  | bytes => "Bytes"

/-- The scalar of a name (`parse`).  Names of enums and models give nothing; case matters. -/
def ofName? (name : String) : Option Scalar := all.find? (·.name == name)

/-- What is said of a name that is no scalar. -/
def unknownMessage (name : String) : String := s!"'{name}' is not a scalar type"

theorem mem_all (s : Scalar) : s ∈ all := by
  cases s <;> decide

theorem name_injective {s t : Scalar} (h : s.name = t.name) : s = t := by
  cases s <;> cases t <;> first | rfl | exact absurd h (by decide)

theorem ofName?_eq_some_iff {n : String} {s : Scalar} : ofName? n = some s ↔ s.name = n := by
  constructor
  · intro h
    simpa using List.find?_some h
  · rintro rfl
    cases s <;> decide

theorem ofName?_name (s : Scalar) : ofName? s.name = some s := ofName?_eq_some_iff.2 rfl

end Scalar

/-! ## Target languages -/

/-- How a target language writes types. -/
structure TypeMapper where
  /-- The name of the language. -/
  language : String
  /-- The type of a scalar. -/
  scalar : Scalar → String
  /-- The type of a list, from the type of its elements. -/
  list : String → String
  /-- The name of a scalar's runtime type in documentation. -/
  doc : Scalar → String

namespace TypeMapper

/-- A mapper that marks lists with brackets and documents a scalar by its capitalized type. -/
def ofScalars (language : String) (scalar : Scalar → String) : TypeMapper where
  language := language
  scalar := scalar
  list := (· ++ "[]")
  doc := fun s => Naming.capitalize (scalar s)

/-- TypeScript types (`TypeScriptTypeMapper`).  Documentation names runtime constructors, which are
not always the capitalized types. -/
def typeScript : TypeMapper :=
  { ofScalars "typescript" fun
      | .int => "number"
      | .string => "string"
      | .dateTime => "Date"
      | .boolean => "boolean"
      | .json => "any"
      | .bigInt => "bigint"
      | .float => "number"
      | .decimal => "number"
      | .bytes => "Buffer" with
    doc := fun
      | .int | .float | .decimal => "Number"
      | .string => "String"
      | .dateTime => "Date"
      | .boolean => "Boolean"
      | .json => "Object"
      | .bigInt => "BigInt"
      | .bytes => "Buffer" }

end TypeMapper

end SchemaClass
