/-!
# Tags

Decorator metadata as plain data: which decorator, from which module, with which arguments.  What is
done with a tag does not depend on its meaning.

* `Argument.ofPairs`: an object from its members, where a repeated key keeps its first place and
  its last value;
* `Tag.property?`: a member of the first object that has it.
-/

namespace SchemaClass

/-- A value inside an object. -/
inductive TagValue where
  | boolean (value : Bool)
  /-- A bare identifier. -/
  | identifier (name : String)
  /-- A string literal. -/
  | text (value : String)
  /-- A reference to a class that is looked up later, so that classes may refer to one another. -/
  | deferred (name : String)
  deriving DecidableEq, Repr

/-- An argument of a tag (`TagArg`). -/
inductive Argument where
  /-- A bare identifier. -/
  | identifier (name : String)
  /-- An object, by its members in order. -/
  | object (members : List (String × TagValue))
  deriving DecidableEq, Repr

/-- Stores a value under a key: in its place if the key is there, else at the end. -/
def putMember (members : List (String × TagValue)) (key : String) (value : TagValue) :
    List (String × TagValue) :=
  if members.any (·.1 == key) then
    members.map fun m => if m.1 == key then (key, value) else m
  else members ++ [(key, value)]

/-- An object of members that may repeat keys. -/
def Argument.ofPairs (pairs : List (String × TagValue)) : Argument :=
  .object (pairs.foldl (fun members (key, value) => putMember members key value) [])

/-- A decorator with its arguments and the module that exports it. -/
structure Tag where
  name : String
  origin : String
  arguments : List Argument := []
  deriving DecidableEq, Repr

/-- The value of a key in the first object that has it (`property`). -/
def Tag.property? (t : Tag) (key : String) : Option TagValue :=
  t.arguments.findSome? fun
    | .identifier _ => none
    | .object members => members.lookup key

end SchemaClass
