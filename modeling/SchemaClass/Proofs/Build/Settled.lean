import Mathlib.Data.List.Forall2
import SchemaClass.Proofs.Build.Run
/-!
# What generated files import, for any configuration

A run is sure to succeed if the modules of the configuration have names that modules can have.  But
a configuration may also name one like a placeholder.  Then resolution looks for an entity under
that name, and the run may fail; if it succeeds, what was meant to come from the module comes from
the file of that entity.  Here is said what every generated file imports, in either case.

* `Model.Imports`: the symbols of a file with their origins, by what brings them in;
* `Model.imports_iff`: the pairs behind the imports of a file are just these;
* `Document.run_eq_settled`: what a run ends with, if it succeeds.
-/

namespace SchemaClass

open Outcome

/-! ## 1. The files at the end -/

namespace Model

variable (c : Config) (root : Path) (m : Model)

/-- The specifier of another model's file. -/
def specifierTo (target : String) : String :=
  (⟨root⟩ : Path.Resolver).specifier (c.location root m.name).path (c.location root target).path

/-- Where a module is for the file of a model: under its own name, unless that is a placeholder. -/
def originOf (module : String) : String := redirectOrigin (m.specifierTo c root) module

/-- What a file imports, each symbol with its origin. -/
def settledImports : List (String × String) :=
  ImportList.answered (m.specifierTo c root)
    (ClassFile.neededImports c.enumModule (m.converted .typeScript c.decoration))

/-- The file of a model at the end of a run, for any configuration. -/
def settledFile : ClassFile where
  entity := m.converted .typeScript c.decoration
  location := some (c.location root m.name)
  imports := ({} : ImportList).registerAll (m.settledImports c root)

/-- What brings a symbol into the file of a model, and where the symbol comes from. -/
inductive Imports : (symbol origin : String) → Prop
  /-- The class of another model that a field relates to. -/
  | related {target : String} (h : target ∈ m.targets) :
    Imports (Naming.pascal target) (m.specifierTo c root target)
  /-- The enum of a field. -/
  | enum {name : String} (h : name ∈ m.enums) : Imports name (m.originOf c root c.enumModule)
  /-- A decorator of the class or of its properties. -/
  | decorator {name : String} (h : name ∈ m.decorators c.decoration) :
    Imports name (m.originOf c root c.decoratorModule)

variable {c root m}

/-- **What a file imports.** -/
theorem imports_iff {symbol origin : String} :
    (symbol, origin) ∈ m.settledImports c root ↔ m.Imports c root symbol origin := by
  rw [settledImports, ImportList.mem_answered]
  constructor
  · rintro ⟨place, hp, rfl⟩
    rcases ClassFile.mem_neededImports.mp hp with ⟨t, ht, rfl, rfl⟩ | ⟨hn, rfl⟩ | ⟨hn, rfl⟩
    · rw [redirectOrigin_placeholder]
      exact .related ht
    · exact .enum hn
    · exact .decorator hn
  · rintro (ht | hn | hn)
    · exact ⟨_, ClassFile.mem_neededImports.mpr (Or.inl ⟨_, ht, rfl, rfl⟩),
        redirectOrigin_placeholder _ _⟩
    · exact ⟨_, ClassFile.mem_neededImports.mpr (Or.inr (Or.inl ⟨hn, rfl⟩)), rfl⟩
    · exact ⟨_, ClassFile.mem_neededImports.mpr (Or.inr (Or.inr ⟨hn, rfl⟩)), rfl⟩

theorem imports_cases {symbol origin : String} (h : m.Imports c root symbol origin) :
    (∃ t ∈ m.targets, symbol = Naming.pascal t ∧ origin = m.specifierTo c root t) ∨
      (symbol ∈ m.enums ∧ origin = m.originOf c root c.enumModule) ∨
      (symbol ∈ m.decorators c.decoration ∧ origin = m.originOf c root c.decoratorModule) := by
  cases h with
  | related ht => exact Or.inl ⟨_, ht, rfl, rfl⟩
  | enum hn => exact Or.inr (Or.inl ⟨hn, rfl⟩)
  | decorator hn => exact Or.inr (Or.inr ⟨hn, rfl⟩)

/-- The symbols of a file. -/
theorem mem_symbols_settledFile {symbol : String} :
    symbol ∈ (m.settledFile c root).imports.symbols ↔
      (∃ t ∈ m.targets, symbol = Naming.pascal t) ∨ symbol ∈ m.enums ∨
        symbol ∈ m.decorators c.decoration := by
  have hsymbols : symbol ∈ (m.settledFile c root).imports.symbols ↔
      ∃ origin, m.Imports c root symbol origin := by
    simp only [ImportList.mem_symbols, ← imports_iff, ← ImportList.exists_record_iff, settledFile]
    exact ⟨fun ⟨r, hr, hs⟩ => ⟨r.origin, r, hr, rfl, hs⟩, fun ⟨_, r, hr, _, hs⟩ => ⟨r, hr, hs⟩⟩
  rw [hsymbols]
  constructor
  · rintro ⟨origin, h⟩
    rcases imports_cases h with ⟨t, ht, rfl, -⟩ | ⟨hn, -⟩ | ⟨hn, -⟩
    · exact Or.inl ⟨t, ht, rfl⟩
    · exact Or.inr (Or.inl hn)
    · exact Or.inr (Or.inr hn)
  · rintro (⟨t, ht, rfl⟩ | hn | hn)
    · exact ⟨_, .related ht⟩
    · exact ⟨_, .enum hn⟩
    · exact ⟨_, .decorator hn⟩

/-- No symbol of a file stands twice exactly if each has one origin only. -/
theorem nodup_symbols_settledFile_iff : (m.settledFile c root).imports.symbols.Nodup ↔
    ∀ symbol origin origin', m.Imports c root symbol origin → m.Imports c root symbol origin' →
      origin = origin' := by
  simp only [← imports_iff]
  exact ImportList.nodup_symbols_registerAll_iff

/-! ## 2. Resolution -/

/-- **What resolution makes of a file**, if it succeeds. -/
theorem eq_settledFile {locations : List (String × Path)} {f : ClassFile} {count : Nat}
    (hlocations : ∀ target path, locations.lookup target = some path →
      path = (c.location root target).path)
    (h : (m.pendingFile c root).resolve locations ⟨root⟩ = .ok (f, count)) :
    f = m.settledFile c root := by
  have hanswer : ∀ target origin,
      ClassFile.specifierOf locations ⟨root⟩ m.name (c.location root m.name).path target
        = .ok origin → origin = m.specifierTo c root target := by
    intro target origin hask
    rw [ClassFile.specifierOf] at hask
    cases hlookup : locations.lookup target with
    | none =>
      rw [hlookup] at hask
      cases hask
    | some path =>
      rw [hlookup] at hask
      rw [← Except.ok.inj hask, hlocations target path hlookup]
      rfl
  obtain ⟨⟨imports, n⟩, himports, hfile⟩ := bind_eq_ok.mp h
  rw [← (Prod.mk.inj (Except.ok.inj hfile)).1, ImportList.resolveWith_eq_answered hanswer himports]
  rfl

end Model

/-! ## 3. The run -/

namespace Document

variable {c : Config} {root : Path} {d : Document} {build : Build}

/-- The build at the end of a run, for any configuration. -/
def settled (c : Config) (root : Path) (d : Document) : Build :=
  { d.linted c root with batch := some ⟨d.models.map (·.settledFile c root)⟩ }

theorem resolveAll_eq_settled {total : Nat}
    (h : ((⟨d.models.map (·.pendingFile c root)⟩ : Batch).resolveAll ⟨root⟩).2 = .ok total) :
    ((⟨d.models.map (·.pendingFile c root)⟩ : Batch).resolveAll ⟨root⟩).1
      = ⟨d.models.map (·.settledFile c root)⟩ := by
  have hlocations : (⟨d.models.map (·.pendingFile c root)⟩ : Batch).locations
      = .ok ((d.models.map (·.name)).map fun n => (n, (c.location root n).path)) := by
    rw [Batch.locations_eq_ok fun m _ => rfl, List.map_map]
    rfl
  rw [Batch.resolveAll, hlocations] at h ⊢
  dsimp only at h ⊢
  rw [Batch.files_of_resolveFiles (fun m _ f count hf => m.eq_settledFile ?_ hf) h]
  exact fun target path => Batch.eq_of_lookup_locations fun n => (c.location root n).path

/-- **What a run ends with**, if it succeeds. -/
theorem run_eq_settled (hd : d.WellFormed)
    (hrun : Pipeline.typeScript.run d c root = .ok build) : build = d.settled c root := by
  have hphase : Phase.resolve.run (d.pending c root) = (_, _) := Pipeline.run_resolve_eq rfl
  rw [run_eq_resolve hd, Pipeline.runPhases, hphase] at hrun
  cases hresult : ((⟨d.models.map (·.pendingFile c root)⟩ : Batch).resolveAll
      ⟨(d.pending c root).root⟩).2 with
  | error e =>
    rw [hresult] at hrun
    cases hrun
  | ok total =>
    have hbatch : ((⟨d.models.map (·.pendingFile c root)⟩ : Batch).resolveAll
      ⟨(d.pending c root).root⟩).1 = _ := resolveAll_eq_settled hresult
    rw [hresult, hbatch] at hrun
    exact (Except.ok.inj hrun).symm

/-- What holds of every model and its file holds along the batch. -/
theorem forall_files_settled {R : Model → ClassFile → Prop}
    (h : ∀ m ∈ d.models, R m (m.settledFile c root)) :
    ∃ batch, (d.settled c root).batch = some batch ∧ List.Forall₂ R d.models batch.files := by
  refine ⟨_, rfl, ?_⟩
  rw [List.forall₂_map_right_iff, List.forall₂_same]
  exact h

end Document

end SchemaClass
