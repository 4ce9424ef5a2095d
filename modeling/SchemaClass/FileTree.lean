import SchemaClass.Disk
/-!
# Trees of files

A file system as a value: every directory and file at its place, where a place is the list of names
that lead there from the root.  Paths are followed on the tree itself, so that `..` leaves the
directory that has been reached.

* `walk`: the place that a path leads to, through directories that exist;
* the instance of `Disk`: operations as changes of a tree;
* `listing`: the files below a directory, by their paths from there.
-/

namespace SchemaClass

/-- What is at a place. -/
inductive Node where
  | directory
  | file (text : String)
  deriving DecidableEq, Repr

/-- The names that lead to a place from the root. -/
abbrev Place := List (List PathChar)

/-- A file system with a working directory. -/
structure FileTree where
  nodes : List (Place × Node) := []
  here : Place := []
  deriving DecidableEq, Repr

namespace FileTree

/-! ## 1. Places -/

/-- What is at a place; the root is a directory. -/
def node? (t : FileTree) (place : Place) : Option Node :=
  if place.isEmpty then some .directory else t.nodes.lookup place

/-- Puts something at a place. -/
def put (t : FileTree) (place : Place) (node : Node) : FileTree :=
  if t.nodes.any (·.1 == place) then
    { t with nodes := t.nodes.map fun n => if n.1 == place then (place, node) else n }
  else { t with nodes := t.nodes ++ [(place, node)] }

/-- The longest name that a directory can hold, in bytes. -/
def longestName : Nat := 255

/-- One more bytes than the longest path has. -/
def pathLimit : Nat := 4096

/-- How many bytes a name or a path has. -/
def size (cs : List PathChar) : Nat := cs.foldl (fun n c => n + c.size) 0

/-- Follows one segment of a path from a place, which must be a directory. -/
def enter (t : FileTree) (place : Place) (segment : List PathChar) : Except IoError Place :=
  match t.node? place with
  | none => .error .notFound
  | some (.file _) => .error .notADirectory
  | some .directory =>
    match Path.Part.ofSegment? segment with
    | some .up => .ok place.dropLast
    | some (.name s) =>
      if size s > longestName then .error .nameTooLong else .ok (place ++ [s])
    | _ => .ok place

/-- The place where a path begins. -/
def start (t : FileTree) (p : Path) : Place := if p.isAbsolute then [] else t.here

/-- Paths that are refused before they are followed. -/
def checkPath (p : Path) : Except IoError Unit :=
  if p.chars.contains (.char '\x00') then .error .invalidInput
  else if p.chars.isEmpty then .error .notFound
  else if size p.chars ≥ pathLimit then .error .nameTooLong
  else .ok ()

/-- The place that segments lead to. -/
def walk (t : FileTree) (p : Path) (segments : List (List PathChar)) : Except IoError Place := do
  checkPath p
  segments.foldlM t.enter (t.start p)

/-- Segments without the empty ones at their end. -/
def dropEmptyEnd (segments : List (List PathChar)) : List (List PathChar) :=
  (segments.reverse.dropWhile (·.isEmpty)).reverse

/-! ## 2. Operations -/

/-- What a path leads to. -/
def find? (t : FileTree) (p : Path) : Option Node :=
  match t.walk p p.segments with
  | .ok place => t.node? place
  | .error _ => none

/-- The text of a file. -/
def read (t : FileTree) (p : Path) : Except IoError String := do
  match t.node? (← t.walk p p.segments) with
  | none => throw .notFound
  | some .directory => throw .isADirectory
  | some (.file text) => return text

/-- The tree with one more directory. -/
def withDirectory (t : FileTree) (p : Path) : Except IoError FileTree := do
  let place ← t.walk p (dropEmptyEnd p.segments)
  if (t.node? place).isSome then throw .alreadyExists
  else return t.put place .directory

/-- Whether a path can only be that of a directory: it ends with a slash or a dot. -/
def endsInDirectory (p : Path) : Bool :=
  match p.segments.getLast? with
  | none => true
  | some last => last.isEmpty || last == [.dot] || last == [.dot, .dot]

/-- The directory that the last segment of a path is looked up in. -/
def walkAbove (t : FileTree) (p : Path) : Except IoError Place := do
  let place ← t.walk p (dropEmptyEnd p.segments).dropLast
  t.enter place []

/-- The tree with a text in a file.  A path that can only be that of a directory is refused before
its last name is looked at. -/
def withFile (t : FileTree) (p : Path) (text : String) : Except IoError FileTree := do
  let above ← t.walkAbove p
  if endsInDirectory p then throw .isADirectory
  let place ← t.enter above (p.segments.getLast?.getD [])
  if t.node? place == some .directory then throw .isADirectory
  else return t.put place (.file text)

/-- Makes a change or leaves the tree as it is. -/
def change (f : FileTree → Except IoError FileTree) : StateM FileTree (Except IoError Unit) :=
  fun t =>
    match f t with
    | .ok t => (.ok (), t)
    | .error e => (.error e, t)

instance : Disk (StateM FileTree) where
  pathExists p := fun t => ((t.find? p).isSome, t)
  isDirectory p := fun t => (t.find? p == some .directory, t)
  readText p := fun t => (t.read p, t)
  makeDirectory p := change (·.withDirectory p)
  writeText p text := change (·.withFile p text)

/-! ## 3. Contents -/

/-- Puts something at a place, with the directories above it. -/
def plant (t : FileTree) (place : Place) (node : Node) : FileTree :=
  let above := (List.range place.length).map (place.take ·)
  (above.foldl (fun t p => if (t.node? p).isSome then t else t.put p .directory) t).put place node

/-- A tree that holds only its working directory, with files below it given by their paths from
there; a path without a text is a directory. -/
def ofFiles (here : Place) (files : List (String × Option String)) : FileTree :=
  let empty : FileTree := ({ here := here } : FileTree).plant here .directory
  files.foldl (fun t (path, text) =>
    t.plant (here ++ (Path.mk path).segments.filter (!·.isEmpty)) (match text with
      | some text => .file text
      | none => .directory)) empty

/-- Whether nothing is in a directory. -/
def isEmptyDirectory (t : FileTree) (place : Place) : Bool :=
  !t.nodes.any fun n => place.isPrefixOf n.1 && n.1 != place

/-- The files below the working directory with their texts, and the empty directories, by their
paths from there. -/
def listing (t : FileTree) : List (String × Option String) :=
  t.nodes.filterMap fun (place, node) =>
    if t.here.isPrefixOf place && place != t.here then
      let path := "/".intercalate ((place.drop t.here.length).map PathChar.text)
      match node with
      | .file text => some (path, some text)
      | .directory => if t.isEmptyDirectory place then some (path, none) else none
    else none

/-- What one tree lists that another does not list so. -/
def changes (before after : FileTree) : List (String × Option String) :=
  after.listing.filter fun entry => !before.listing.contains entry

end FileTree

end SchemaClass
