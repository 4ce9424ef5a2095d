import SchemaClass.ClassFile
/-!
# Batches

All class files of one run, one for each name of an entity, in the order of the document.  Places
and specifiers concern the batch as a whole: no two files may have the same path, and a specifier
needs the places of both files.

* `placeAll`, `resolveAll`: both stop at the first file that fails and keep what was done before;
* `renderAll`: the files with their texts, or none.
-/

namespace SchemaClass

/-- A file to be written. -/
structure OutputFile where
  path : Path
  content : String
  deriving DecidableEq, Repr

/-- Class files in the order of the document. -/
structure Batch where
  files : List ClassFile := []
  deriving DecidableEq, Repr

namespace Batch

/-- The file of an entity. -/
def file? (b : Batch) (entity : String) : Option ClassFile :=
  b.files.find? (·.entity.name == entity)

/-- Adds the file of an entity; another entity of the same name is replaced where it stands. -/
def insert (b : Batch) (e : Entity) : Batch :=
  if b.files.any (·.entity.name == e.name) then
    ⟨b.files.map fun f => if f.entity.name == e.name then { entity := e } else f⟩
  else ⟨b.files ++ [{ entity := e }]⟩

/-- The files of entities, without places and imports (`Batch.new`). -/
def ofEntities (es : List Entity) : Batch := es.foldl insert {}

/-! ## 1. Places -/

/-- Places files one after the other, where `taken` are the paths of those before with the names of
their entities.  A path that is taken ends it. -/
def placeFiles (placement : Placement) (taken : List (Path × String)) :
    List ClassFile → List ClassFile × Except GenerateError Unit
  | [] => ([], .ok ())
  | f :: fs =>
    let path := (f.locate placement).path
    match taken.find? fun (other, _) => decide (path.SamePlace other) with
    | some (_, first) =>
      (f.place placement :: fs, .error (.pathCollision path first f.entity.name))
    | none =>
      let (placed, result) := placeFiles placement ((path, f.entity.name) :: taken) fs
      (f.place placement :: placed, result)

/-- Places all files (`place_all`). -/
def placeAll (placement : Placement) (b : Batch) : Batch × Except GenerateError Unit :=
  let (files, result) := placeFiles placement [] b.files
  (⟨files⟩, result)

/-- The path of a file with the name of its entity. -/
def locationOf (f : ClassFile) : Except GenerateError (String × Path) :=
  match f.path? with
  | some path => .ok (f.entity.name, path)
  | none => .error (.unplaced f.entity.name)

/-- The paths of all files. -/
def locations (b : Batch) : Except GenerateError (List (String × Path)) :=
  b.files.mapM locationOf

/-! ## 2. Imports -/

/-- Registers the imports of all files (`register_all`). -/
def registerAll (enumModule : String) (b : Batch) : Batch :=
  ⟨b.files.map (·.register enumModule)⟩

/-- Resolves files one after the other and adds up the counts.  A failure ends it. -/
def resolveFiles (locations : List (String × Path)) (resolver : Path.Resolver) :
    List ClassFile → List ClassFile × Except GenerateError Nat
  | [] => ([], .ok 0)
  | f :: fs =>
    match f.resolve locations resolver with
    | .error e => (f :: fs, .error e)
    | .ok (resolved, count) =>
      let (rest, result) := resolveFiles locations resolver fs
      (resolved :: rest, result.map (count + ·))

/-- Resolves the imports of all files; counts the placeholders (`resolve_all`). -/
def resolveAll (resolver : Path.Resolver) (b : Batch) : Batch × Except GenerateError Nat :=
  match b.locations with
  | .error e => (b, .error e)
  | .ok locations =>
    let (files, result) := resolveFiles locations resolver b.files
    (⟨files⟩, result)

/-! ## 3. Texts -/

/-- The output of one file. -/
def renderFile (template : Template) (f : ClassFile) : Except GenerateError OutputFile := do
  let content ← f.render template
  match f.path? with
  | some path => return ⟨path, content⟩
  | none => throw (.unplaced f.entity.name)

/-- The output of all files (`render_all`). -/
def renderAll (template : Template) (b : Batch) : Except GenerateError (List OutputFile) :=
  b.files.mapM (renderFile template)

end Batch

end SchemaClass
