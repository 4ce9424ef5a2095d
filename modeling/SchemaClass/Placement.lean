import SchemaClass.Entity.Basic
import SchemaClass.Layout
import SchemaClass.Path.Basic
/-!
# Placement of class files

Every entity has its own file, named after it in lowercase words with hyphens.  Where that file is
depends on the layout.
-/

namespace SchemaClass

/-- The place of a file. -/
structure Location where
  directory : Path
  fileName : String
  deriving DecidableEq, Repr

def Location.path (l : Location) : Path := l.directory.join ⟨l.fileName⟩

/-- Gives every entity its place. -/
abbrev Placement := Entity → Location

namespace Placement

/-- Every file directly in the output directory (`FlatPlacement`). -/
def flat (directory : Path) (extension : String) : Placement := fun e =>
  ⟨directory, Naming.kebab e.name ++ "." ++ extension⟩

/-- Every file in a directory of its own (`NestedPlacement`). -/
def nested (directory : Path) (extension : String) : Placement := fun e =>
  ⟨directory.join ⟨Naming.kebab e.name⟩, Naming.kebab e.name ++ ".entity." ++ extension⟩

/-- The placement of a layout (`placement_for`). -/
def ofLayout : Layout → (directory : Path) → (extension : String) → Placement
  | .flat => flat
  | .nested => nested

end Placement

end SchemaClass
