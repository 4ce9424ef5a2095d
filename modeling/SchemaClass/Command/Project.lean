import SchemaClass.Command.Arguments
import SchemaClass.Config.Parser
import SchemaClass.Disk
import SchemaClass.Document.Text
/-!
# Projects

A project is a configuration and the directory that its paths start from.  Without a configuration
file the defaults are used, if a document is named on the command line.
-/

namespace SchemaClass

/-- A configuration and the directory of its paths. -/
structure Project where
  config : Config
  root : Path
  deriving DecidableEq, Repr

/-- Why a command ends early. -/
inductive CommandError where
  /-- A document or a configuration is refused. -/
  | schema (e : SchemaError)
  /-- Something fails, with its causes, outermost first. -/
  | failed (causes : List String)
  deriving DecidableEq, Repr

variable {m : Type → Type} [Monad m] [Disk m]

/-- Reads a file and what its text stands for. -/
def loadWith {α : Type} (parse : String → String → Except SchemaError α) (p : Path) :
    m (Except SchemaError α) := do
  match ← Disk.readText p with
  | .error e => return .error (.unreadable p e)
  | .ok text => return parse p.text text

/-- The document of a file. -/
def Document.load (p : Path) : m (Except SchemaError Document) := loadWith Document.parse p

/-- The configuration of a file. -/
def Config.load (p : Path) : m (Except SchemaError Config) := loadWith Config.parse p

namespace Project

/-- The working directory. -/
def workingDirectory : Path := ⟨"."⟩

/-- The directory that a configuration file is in. -/
def rootOf (configPath : Path) : Path :=
  match configPath.parent? with
  | some directory => if directory.chars.isEmpty then workingDirectory else directory
  | none => workingDirectory

/-- What is said when there is no configuration. -/
def missing (configPath : Path) : CommandError :=
  .failed [s!"{configPath.text} not found; create it or pass --input"]

/-- The project of a configuration file, or of a document if there is none (`Project.load`). -/
def load (configPath : Path) (input : Option Path) : m (Except CommandError Project) := do
  if ← Disk.pathExists configPath then
    match ← Config.load configPath with
    | .ok config => return .ok ⟨config, rootOf configPath⟩
    | .error e => return .error (.schema e)
  else
    match input with
    | some input => return .ok ⟨{ input }, workingDirectory⟩
    | none => return .error (missing configPath)

end Project

end SchemaClass
