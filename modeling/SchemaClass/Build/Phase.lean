import SchemaClass.Build.Basic
import SchemaClass.Entity.Conversion
import SchemaClass.Log.Line
/-!
# Phases of a build

A phase changes a build and succeeds or fails; a phase that fails may have changed the build before.
The log of a phase that has succeeded is told by the build before and behind it.

* `validate`: the findings of lints;
* `convert`: entities; `place`: a batch whose files have places;
* `register`, `resolve`: the imports of the batch.
-/

namespace SchemaClass

/-- One step of a build. -/
structure Phase where
  name : String
  description : String
  run : Build → Build × Except BuildError Unit
  /-- What is logged when the phase has led from one build to another. -/
  log : (before after : Build) → List LogLine := fun _ _ => []

/-- The failure of a part of a build. -/
def liftGenerate {α : Type} (r : Except GenerateError α) : Except BuildError α :=
  r.mapError .generate

namespace Phase

/-! ## 1. Lints -/

/-- The level on which a diagnostic is logged. -/
def levelOf : Severity → LogLevel
  | .error => .error
  | .warning => .warn
  | .info => .debug

/-- Reports what lints find, and fails if there are errors (`ValidatePhase`). -/
def validate (lints : List Lint := Lint.standard) : Phase where
  name := "validate"
  description := "Lint models and relations"
  run := fun b =>
    let found := lints.flatMap fun l => l.check b.document
    let b := { b with diagnostics := b.diagnostics ++ found }
    (b, if b.hasErrors then .error (.findings (b.count .error)) else .ok ())
  log := fun before after =>
    lints.map (fun l => { source := .lints, level := .trace, message := "lint finished",
                          values := [quotedValue "lint" l.name] }) ++
      (after.diagnostics.drop before.diagnostics.length).map fun d =>
        { source := .lints, level := levelOf d.severity, message := d.text }

/-! ## 2. Conversion -/

/-- What is logged of an entity. -/
def entityLine (e : Entity) : LogLine where
  source := .entities
  level := .debug
  message := "converted model"
  values := [plainValue "entity" e.name, countValue "fields" e.properties.length,
    countValue "relations" e.relations.length, countValue "enums" e.enums.length]

/-- Converts all models (`ConvertPhase`). -/
def convert (mapper : TypeMapper) : Phase where
  name := "convert"
  description := "Convert raw models into entities"
  run := fun b =>
    match b.document.entities mapper b.config.decoration with
    | .ok es => ({ b with entities := some es }, .ok ())
    | .error e => (b, .error (.generate e))
  log := fun _ after =>
    let es := after.entities.getD []
    es.map entityLine ++
      [{ source := .conversion, level := .debug, message := "converted document",
         values := [quotedValue "language" mapper.language, countValue "entities" es.length] }]

/-! ## 3. Placement -/

/-- The placement that a configuration asks for. -/
def placementOf (extension : String) (b : Build) : Placement :=
  .ofLayout b.config.layout b.outputDirectory extension

/-- Makes a batch of the entities and places its files (`PlacePhase`). -/
def place (extension : String) : Phase where
  name := "place"
  description := "Assign an output location to every entity"
  run := fun b =>
    match b.takeEntities with
    | (b, .error e) => (b, .error e)
    | (b, .ok es) =>
      match (Batch.ofEntities es).placeAll (placementOf extension b) with
      | (_, .error e) => (b, .error (.generate e))
      | (batch, .ok ()) => ({ b with batch := some batch }, .ok ())
  log := fun _ after =>
    [{ source := .placement, level := .debug, message := "placed files",
       values := [countValue "files" ((after.batch.getD {}).files.length),
         plainValue "layout" after.config.layout.name] }]

/-! ## 4. Imports -/

/-- Registers the imports of all files (`RegisterPhase`). -/
def register : Phase where
  name := "register"
  description := "Register the imports of every output file"
  run := fun b =>
    match b.batch with
    | none => (b, .error Build.noBatch)
    | some batch => ({ b with batch := some (batch.registerAll b.config.enumModule) }, .ok ())

/-- The number of placeholders of a file. -/
def pending (f : ClassFile) : Nat := f.imports.unresolved.length

/-- Resolves the imports of all files (`ResolvePhase`). -/
def resolve : Phase where
  name := "resolve"
  description := "Rewrite entity imports into relative module paths"
  run := fun b =>
    match b.batch with
    | none => (b, .error Build.noBatch)
    | some batch =>
      let (batch, result) := batch.resolveAll ⟨b.root⟩
      ({ b with batch := some batch }, (liftGenerate result).map fun _ => ())
  log := fun before _ =>
    let files := (before.batch.getD {}).files
    (files.filter (pending · != 0)).map (fun f =>
      { source := .classFiles, level := .debug, message := "resolved imports",
        values := [quotedValue "entity" f.entity.name, countValue "count" (pending f)] }) ++
      [{ source := .resolution, level := .debug, message := "resolved entity imports",
         values := [countValue "rewritten" (files.foldl (fun n f => n + pending f) 0)] }]

end Phase

end SchemaClass
