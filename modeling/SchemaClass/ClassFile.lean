import SchemaClass.Entity.Basic
import SchemaClass.Import.Basic
import SchemaClass.Path.Specifier
import SchemaClass.Placement
import SchemaClass.Source.Template
/-!
# Class files

An entity on its way to a text: it is given a place, its imports are registered, the placeholders
among them are resolved once all files have places, and then it can be rendered.

* `place`: the first place stays;
* `register`: every import that the class needs, where other classes are placeholders;
* `resolve`: placeholders become specifiers;
* `render`: the text, with the imports in place of the token.
-/

namespace SchemaClass

/-- An entity with its place and its imports (`OutputFile`). -/
structure ClassFile where
  entity : Entity
  location : Option Location := none
  imports : ImportList := {}
  deriving DecidableEq, Repr

namespace ClassFile

/-- The path of a file that has a place. -/
def path? (f : ClassFile) : Option Path := f.location.map (·.path)

/-! ## 1. Places -/

/-- The place that a file has or is given. -/
def locate (placement : Placement) (f : ClassFile) : Location :=
  f.location.getD (placement f.entity)

/-- Gives a file its place, unless it has one. -/
def place (placement : Placement) (f : ClassFile) : ClassFile :=
  { f with location := some (f.locate placement) }

/-! ## 2. Imports -/

/-- The imports that the tags of an entity need. -/
def tagImports (tags : List Tag) : List (String × String) := tags.map fun t => (t.name, t.origin)

/-- Everything that a class imports, each symbol with its origin: related classes, enums, the tags
of the class, the tags of its properties. -/
def neededImports (enumModule : String) (e : Entity) : List (String × String) :=
  e.relations.map (fun r => (Naming.pascal r, placeholder r)) ++
    e.enums.map (·, enumModule) ++ tagImports e.tags ++
      e.properties.flatMap fun p => tagImports p.tags

/-- Registers everything that the class imports (`register_imports`). -/
def register (enumModule : String) (f : ClassFile) : ClassFile :=
  { f with imports := f.imports.registerAll (neededImports enumModule f.entity) }

/-- Where the specifier of a target comes from. -/
def specifierOf (locations : List (String × Path)) (resolver : Path.Resolver) (entity : String)
    (source : Path) (target : String) : Except GenerateError String :=
  match locations.lookup target with
  | some path => .ok (resolver.specifier source path)
  | none => .error (.missingTarget entity target)

/-- Replaces placeholders by specifiers, where `locations` has the paths of all files; counts
them (`resolve_imports`). -/
def resolve (locations : List (String × Path)) (resolver : Path.Resolver) (f : ClassFile) :
    Except GenerateError (ClassFile × Nat) :=
  match f.path? with
  | none => .error (.unplaced f.entity.name)
  | some source => do
    let (imports, count) ←
      f.imports.resolveWith (specifierOf locations resolver f.entity.name source)
    return ({ f with imports }, count)

/-! ## 3. Text -/

/-- The import statements of a file. -/
def statements (template : Template) (f : ClassFile) : String :=
  "\n".intercalate (f.imports.records.map template.statement)

/-- Puts the import statements in place of the token.  A file without imports begins with its
first line that is not empty. -/
def splice (template : Template) (f : ClassFile) (before behind : List Char) : String :=
  if f.imports.records.isEmpty then
    String.ofList ((before ++ behind).dropWhile (· == '\n'))
  else String.ofList (before ++ (f.statements template).toList ++ behind)

/-- The text of a file. -/
def render (template : Template) (f : ClassFile) : Except GenerateError String :=
  match f.location, f.imports.unresolved with
  | none, _ => .error (.unplaced f.entity.name)
  | some _, r :: _ => .error (.unresolvedImport f.entity.name r.origin)
  | some _, [] =>
    match Text.cutAt importsToken.toList (template.body f.entity).toList with
    | none => .error (.missingToken f.entity.name)
    | some (before, behind) => .ok (f.splice template before behind)

end ClassFile

end SchemaClass
