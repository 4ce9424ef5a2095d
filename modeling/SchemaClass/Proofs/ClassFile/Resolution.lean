import SchemaClass.ClassFile
import SchemaClass.Proofs.Import.Resolution
import SchemaClass.Proofs.Path.Specifier
/-!
# Resolution of one class file

A file asks for the specifiers of the files that it waits for.  It has to have a place for that, and
the targets have to be known; then it waits for nothing any more, since no specifier looks like a
placeholder.  Nothing but its imports has changed.

* `eq_of_specifierOf`: what is answered for a target, if anything is;
* `exists_of_resolve`: what a resolution that succeeds has found and done;
* `frame_resolve`: it leaves the entity and the place alone;
* `resolve_eq_ok`, `eq_resolved_of_resolve`: when a file is resolved, and to what;
* `unresolved_resolved`: then it waits for nothing;
* `resolve_of_resolved`: and resolving it again changes nothing.
-/

namespace SchemaClass.ClassFile

open Outcome

variable {f g : ClassFile} {location : Location} {locations : List (String × Path)}
  {resolver : Path.Resolver} {count : Nat}

/-! ## 1. Answers -/

theorem isModuleName_specifier (resolver : Path.Resolver) (source target : Path) :
    IsModuleName (resolver.specifier source target) := by
  obtain ⟨rest, hrest⟩ := resolver.exists_dot_specifier source target
  exact isModuleName_of_dot hrest

/-- The answer to a question, if there is one. -/
theorem eq_of_specifierOf {name target origin : String} {source : Path}
    (h : specifierOf locations resolver name source target = .ok origin) :
    origin = resolver.specifier source ((locations.lookup target).getD ⟨[]⟩) := by
  rw [specifierOf] at h
  cases hlookup : locations.lookup target with
  | none =>
    rw [hlookup] at h
    cases h
  | some path =>
    rw [hlookup] at h
    rw [Option.getD_some]
    exact (Except.ok.inj h).symm

/-! ## 2. What changes -/

/-- A file apart from its imports. -/
def frame (f : ClassFile) : Entity × Option Location := (f.entity, f.location)

/-- What a resolution that succeeds has found and done. -/
theorem exists_of_resolve (h : f.resolve locations resolver = .ok (g, count)) :
    ∃ location imports, f.location = some location ∧
      f.imports.resolveWith (specifierOf locations resolver f.entity.name location.path)
        = .ok (imports, count) ∧ g = { f with imports } := by
  cases hlocation : f.location with
  | none =>
    rw [resolve, path?, hlocation] at h
    cases h
  | some location =>
    rw [resolve, path?, hlocation] at h
    obtain ⟨⟨imports, n⟩, hresolve, heq⟩ := bind_eq_ok.mp h
    cases heq
    exact ⟨location, imports, rfl, hresolve, rfl⟩

theorem frame_resolve (h : f.resolve locations resolver = .ok (g, count)) :
    g.frame = f.frame := by
  obtain ⟨location, imports, -, -, rfl⟩ := exists_of_resolve h
  rfl

/-- The file with a specifier for each placeholder, where `locations` knows the target. -/
def resolved (locations : List (String × Path)) (resolver : Path.Resolver) (f : ClassFile) :
    ClassFile :=
  { f with imports := f.imports.redirected fun target =>
      resolver.specifier (f.path?.getD ⟨[]⟩) ((locations.lookup target).getD ⟨[]⟩) }

theorem resolve_eq_ok {source : Path} (hplace : f.path? = some source)
    (hlocations : ∀ target, placeholder target ∈ f.imports.origins →
      ∃ path, locations.lookup target = some path) :
    f.resolve locations resolver
      = .ok (f.resolved locations resolver, f.imports.unresolved.length) := by
  have hask : ∀ r ∈ f.imports.records, ∀ target, r.target? = some target →
      specifierOf locations resolver f.entity.name source target
        = .ok (resolver.specifier (f.path?.getD ⟨[]⟩)
          ((locations.lookup target).getD ⟨[]⟩)) := by
    intro r hr target ht
    have horigin : r.origin = placeholder target := placeholderTarget?_eq_some_iff.mp ht
    obtain ⟨path, hpath⟩ := hlocations target (horigin ▸ List.mem_map_of_mem hr)
    rw [specifierOf, hpath, hplace]
    rfl
  rw [resolve, hplace]
  dsimp only
  rw [ImportList.resolveWith_eq_redirected hask]
  rfl

/-- **What a file is resolved to**, whatever it waited for, and what is counted. -/
theorem eq_resolved_of_resolve (h : f.resolve locations resolver = .ok (g, count)) :
    g = f.resolved locations resolver ∧ count = f.imports.unresolved.length := by
  obtain ⟨location, imports, hplace, hresolve, rfl⟩ := exists_of_resolve h
  obtain ⟨answer, hanswer⟩ := ImportList.exists_answers hresolve
  have hasked : ∀ r ∈ f.imports.records, ∀ target, r.target? = some target →
      specifierOf locations resolver f.entity.name location.path target
        = .ok (resolver.specifier (f.path?.getD ⟨[]⟩)
          ((locations.lookup target).getD ⟨[]⟩)) := by
    intro r hr target ht
    have hask := hanswer r hr target ht
    rw [hask, eq_of_specifierOf hask, path?, hplace]
    rfl
  rw [ImportList.resolveWith_eq_redirected hasked] at hresolve
  cases hresolve
  exact ⟨rfl, rfl⟩

/-! ## 3. What is left -/

/-- A file that has been resolved waits for nothing. -/
theorem unresolved_resolved (locations : List (String × Path)) (resolver : Path.Resolver)
    (f : ClassFile) : (f.resolved locations resolver).imports.unresolved = [] :=
  ImportList.unresolved_redirected f.imports fun _ => isModuleName_specifier resolver _ _

/-- A file in which nothing waits stays as it is. -/
theorem resolve_of_resolved (h : f.imports.unresolved = []) (hplace : f.location = some location) :
    f.resolve locations resolver = .ok (f, 0) := by
  obtain ⟨entity, place, imports⟩ := f
  obtain rfl : place = some location := hplace
  rw [resolve, path?, Option.map_some]
  dsimp only
  rw [ImportList.resolveWith_of_resolved h]
  rfl

end SchemaClass.ClassFile
