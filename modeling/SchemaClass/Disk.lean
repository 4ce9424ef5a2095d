import SchemaClass.IoError
import SchemaClass.Path.Basic
/-!
# Files on a disk

What a program asks of a file system, whichever it is.

* `makeDirectories`: a directory and those above it that are missing;
* `writeFile`: a file in a directory that need not exist yet.
-/

namespace SchemaClass

/-- The operations of a file system. -/
class Disk (m : Type → Type) where
  /-- Whether a path leads to something. -/
  pathExists : Path → m Bool
  /-- Whether a path leads to a directory. -/
  isDirectory : Path → m Bool
  readText : Path → m (Except IoError String)
  /-- Makes one directory in another. -/
  makeDirectory : Path → m (Except IoError Unit)
  /-- Writes a file in a directory that is there, in place of what the file held. -/
  writeText : Path → String → m (Except IoError Unit)

namespace Path

/-- A path and those above it, up to a number of steps. -/
def upwards : (steps : Nat) → Path → List Path
  | 0, p => [p]
  | steps + 1, p =>
    match p.parent? with
    | some above => p :: upwards steps above
    | none => [p]

/-- A path and all those above it. -/
def ancestors (p : Path) : List Path := upwards p.parts.length p

end Path

namespace Disk

variable {m : Type → Type} [Monad m] [Disk m]

/-- Makes a directory; it is no failure if the directory is there. -/
def ensureDirectory (p : Path) (result : Except IoError Unit) : m (Except IoError Unit) := do
  match result with
  | .ok () => return .ok ()
  | .error e => if ← isDirectory p then return .ok () else return .error e

/-- Makes the first of several directories, each of which is in the next one. -/
def makeChain : List Path → m (Except IoError Unit)
  | [] => return .ok ()
  | p :: above => do
    if p.chars.isEmpty then return .ok ()
    else
      match ← makeDirectory p with
      | .error .notFound =>
        match ← makeChain above with
        | .error e => return .error e
        | .ok () => ensureDirectory p (← makeDirectory p)
      | result => ensureDirectory p result

/-- Makes a directory and those above it (`create_dir_all`). -/
def makeDirectories (p : Path) : m (Except IoError Unit) := makeChain p.ancestors

/-- Writes a file and makes the directories above it (`write_file`). -/
def writeFile (p : Path) (content : String) : m (Except IoError Unit) := do
  match p.parent? with
  | none => writeText p content
  | some directory =>
    match ← makeDirectories directory with
    | .error e => return .error e
    | .ok () => writeText p content

end Disk

end SchemaClass
