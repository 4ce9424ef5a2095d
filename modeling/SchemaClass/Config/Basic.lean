import SchemaClass.Layout
import SchemaClass.Path.Basic
/-!
# Configuration

What a run is told besides the document: where to read and to write, how to arrange the class
files, and which modules the classes import from.
-/

namespace SchemaClass

/-- The settings of a run (`GeneratorConfig`). -/
structure Config where
  /-- The schema document, relative to the project. -/
  input : Path
  /-- The output directory, relative to the project. -/
  output : Path := ⟨"generated"⟩
  layout : Layout := .flat
  /-- Whether every field is documented by a decorator. -/
  swagger : Bool := false
  /-- The module that exports the enums of the schema. -/
  enumModule : String := "@prisma/client"
  /-- The module that exports the decorators. -/
  decoratorModule : String := "@nestjs/swagger"
  /-- Whether files are shown instead of written. -/
  dryRun : Bool := false
  deriving DecidableEq, Repr

namespace Config

/-- Where the document is, for a project in `root` (`input_path`). -/
def inputPath (c : Config) (root : Path) : Path := root.join c.input

/-- Where the class files go, for a project in `root` (`output_path`). -/
def outputPath (c : Config) (root : Path) : Path := root.join c.output

end Config

end SchemaClass
