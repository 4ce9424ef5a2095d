import SchemaClass.Path.Basic
/-!
# Module specifiers

How one generated file names another in an import: by the way from its own directory, explicitly
relative, without the extension of a source file.  A specifier is a text, so a name that is none is
written as it is shown, with a replacement character for what is lost (`to_string_lossy`).

* `dropCommon`: two lists without what they begin with in common;
* `specifier`: the way between two files;
* `Resolver`: the same for files given relative to a common root.
-/

namespace SchemaClass.Path

/-- Extensions that a module specifier leaves out (`SOURCE_EXTENSIONS`). -/
def sourceExtensions : List String := ["ts", "tsx", "mts", "cts", "js", "jsx", "mjs", "cjs"]

/-- The text before the last dot and the text behind it. -/
def cutAtLastDot? (name : List Char) : Option (List Char × List Char) :=
  match name.reverse.dropWhile (· != '.') with
  | [] => none
  | _ :: stem => some (stem.reverse, (name.reverse.takeWhile (· != '.')).reverse)

/-- A file name without its source extension (`strip_source_extension`).  A name that is nothing but
an extension is kept. -/
def dropSourceExtension (name : String) : String :=
  match cutAtLastDot? name.toList with
  | some (stem, extension) =>
    if !stem.isEmpty && sourceExtensions.contains (String.ofList extension) then
      String.ofList stem
    else name
  | none => name

/-- What is left of two lists behind their longest common beginning. -/
def dropCommon {α : Type} [DecidableEq α] : List α → List α → List α × List α
  | a :: as, b :: bs => if a = b then dropCommon as bs else (a :: as, b :: bs)
  | as, bs => (as, bs)

/-- Changes the last element of a list. -/
def mapLast {α : Type} (f : α → α) : List α → List α
  | [] => []
  | [a] => [f a]
  | a :: b :: as => a :: mapLast f (b :: as)

/-- The directory that a file is in, in normal form. -/
def directory (file : Path) : Path := (file.parent?.getD ⟨[]⟩).normalize

/-- The way from the directory of `source` to `target`: up to the last common directory, then down,
by the names as they are shown, with the source extension left out. -/
def way (source target : Path) : List String :=
  let (above, below) := dropCommon source.directory.parts target.normalize.parts
  mapLast dropSourceExtension (above.map (fun _ => "..") ++ below.map Part.text)

/-- The specifier that imports `target` from `source`: it begins with `./` unless it climbs
(`relative_module_path`). -/
def specifier (source target : Path) : String :=
  let joined := "/".intercalate (way source target)
  match joined.toList with
  | '.' :: '.' :: _ => joined
  | _ => "./" ++ joined

/-- Reads the paths of files from a common root (`PathResolver`). -/
structure Resolver where
  root : Path
  deriving DecidableEq, Repr

/-- The normal form of a path read from the root; an absolute path stands on its own. -/
def Resolver.anchor (r : Resolver) (p : Path) : Path := (r.root.join p).normalize

/-- The specifier that imports `target` from `source`, both read from the root (`resolve`). -/
def Resolver.specifier (r : Resolver) (source target : Path) : String :=
  (r.anchor source).specifier (r.anchor target)

end SchemaClass.Path
