import SchemaClass.Proofs.ClassFile.Resolution
import SchemaClass.Proofs.ClassFile.Text
import SchemaClass.Proofs.Import.InPlace
/-!
# The life of a class file

A class file is meant to be placed, registered, resolved and rendered, once each.  Nothing keeps
these calls in that order or from being repeated, and a call may fail and leave what it has done so
far.  All the same a file can import only four lists in its life (`Imported`): nothing, what is
registered first, what that is resolved to, and the latter with the placeholders registered again
behind it.  Both lists with placeholders are resolved to the same one, since what is registered
again has been there before.

* `eq_of_run_resolveInPlace`: a resolution that fails leaves the file as it was;
* `resolveWith_needs`, `resolveWith_again`: what the two lists with placeholders are resolved to;
* `imported_perform`, `imported_after`: one call, and any sequence of calls;
* `imports_converge`: what any sequence of calls leads to.
-/

namespace SchemaClass

open Outcome

/-- What stays the same while a file is worked on: the module of enums, the paths of all files and
the root that they are read from. -/
structure Surroundings where
  enumModule : String
  locations : List (String × Path)
  resolver : Path.Resolver

namespace ClassFile

/-! ## 1. Calls -/

/-- Replaces the placeholders of a file in place; counts them. -/
def resolveInPlace (s : Surroundings) : ExceptT GenerateError (StateM ClassFile) Nat := do
  let f ← get
  match f.path? with
  | none => throw (.unplaced f.entity.name)
  | some source =>
    let (result, imports) := (ImportList.rewrite
      (specifierOf s.locations s.resolver f.entity.name source)).run.run f.imports
    set { f with imports }
    result

/-- What can be called on a file. -/
inductive Call where
  | place (placement : Placement)
  | register
  | resolve
  | render (template : Template)

/-- The place that a call would give to the file of an entity. -/
def Call.location? (e : Entity) : Call → Option Location
  | .place placement => some (placement e)
  | _ => none

/-- One call. -/
def perform (s : Surroundings) : Call → ExceptT GenerateError (StateM ClassFile) Unit
  | .place placement => modify (·.place placement)
  | .register => modify (·.register s.enumModule)
  | .resolve => do let _ ← resolveInPlace s
  | .render template => do
    let f ← get
    let _ ← (f.render template : Except GenerateError String)

/-- The file after some calls, whether they succeed or not. -/
def after (s : Surroundings) (f : ClassFile) (calls : List Call) : ClassFile :=
  calls.foldl (fun f call => ((perform s call).run.run f).2) f

theorem after_concat (s : Surroundings) (f : ClassFile) (calls : List Call) (call : Call) :
    f.after s (calls ++ [call]) = ((perform s call).run.run (f.after s calls)).2 :=
  List.foldl_concat ..

theorem run_resolveInPlace (s : Surroundings) (f : ClassFile) :
    (resolveInPlace s).run.run f = match f.resolve s.locations s.resolver with
      | .ok (resolved, count) => (.ok count, resolved)
      | .error e => (.error e, f) := by
  rw [resolveInPlace, run_bind_of_ok (run_get f), resolve]
  cases f.path? with
  | none => rfl
  | some source =>
    dsimp only
    rw [ImportList.run_rewrite]
    cases f.imports.resolveWith (specifierOf s.locations s.resolver f.entity.name source) with
    | error e => rfl
    | ok result => rfl

theorem run_resolveInPlace_eq_ok {s : Surroundings} {f g : ClassFile} {count : Nat} :
    (resolveInPlace s).run.run f = (.ok count, g) ↔
      f.resolve s.locations s.resolver = .ok (g, count) := by
  rw [run_resolveInPlace]
  cases f.resolve s.locations s.resolver with
  | error e =>
    constructor
    · intro h
      cases (Prod.mk.inj h).1
    · intro h
      cases h
  | ok result =>
    obtain ⟨resolved, n⟩ := result
    constructor
    · intro h
      cases h
      rfl
    · intro h
      cases h
      rfl

/-- **A resolution that fails leaves the file as it was.** -/
theorem eq_of_run_resolveInPlace {s : Surroundings} {f g : ClassFile} {e : GenerateError}
    (h : (resolveInPlace s).run.run f = (.error e, g)) : g = f := by
  rw [run_resolveInPlace] at h
  cases hresolve : f.resolve s.locations s.resolver with
  | error e' =>
    rw [hresolve] at h
    exact (Prod.mk.inj h).2.symm
  | ok result =>
    rw [hresolve] at h
    cases (Prod.mk.inj h).1

/-! ## 2. Four lists -/

/-- Everything that a class imports, where `origin` says what other classes come from. -/
def needs (origin : String → String) (enumModule : String) (e : Entity) : List (String × String) :=
  e.relations.map (fun r => (Naming.pascal r, origin r)) ++ (e.enums.map (·, enumModule) ++
    (tagImports e.tags ++ e.properties.flatMap fun p => tagImports p.tags))

theorem neededImports_eq_needs (enumModule : String) (e : Entity) :
    neededImports enumModule e = needs placeholder enumModule e := by
  simp only [neededImports, needs, List.append_assoc]

/-- The specifiers of other classes in a file at a place. -/
def specifierFrom (s : Surroundings) (location : Location) (target : String) : String :=
  s.resolver.specifier location.path ((s.locations.lookup target).getD ⟨[]⟩)

/-- **The imports of a file at a place**, as if nothing had ever stood for another class. -/
def settledImports (s : Surroundings) (e : Entity) (location : Location) : ImportList :=
  ({} : ImportList).registerAll (needs (specifierFrom s location) s.enumModule e)

/-- The lists that the file of an entity can import at a place, by whether anything has been
registered. -/
inductive Imported (s : Surroundings) (e : Entity) :
    (location : Option Location) → (registered : Bool) → ImportList → Prop
  | fresh {location : Option Location} : Imported s e location false {}
  | registered {location : Option Location} :
    Imported s e location true (({} : ImportList).registerAll (neededImports s.enumModule e))
  | settled {location : Location} :
    Imported s e (some location) true (settledImports s e location)
  /-- What has been resolved is registered once more. -/
  | again {location : Location} : Imported s e (some location) true
      ((settledImports s e location).registerAll (neededImports s.enumModule e))

/-- Nothing that an entity names is called like a placeholder. -/
structure Ordinary (s : Surroundings) (e : Entity) : Prop where
  enums : IsModuleName s.enumModule
  tags : ∀ tag ∈ e.tags, IsModuleName tag.origin
  propertyTags : ∀ p ∈ e.properties, ∀ tag ∈ p.tags, IsModuleName tag.origin

section Lists

variable {s : Surroundings} {e : Entity} {location : Location}

theorem Ordinary.isModuleName (h : Ordinary s e) :
    ∀ p ∈ e.enums.map (·, s.enumModule) ++
      (tagImports e.tags ++ e.properties.flatMap fun p => tagImports p.tags),
      IsModuleName p.2 := by
  intro p hp
  simp only [tagImports, List.mem_append, List.mem_map, List.mem_flatMap] at hp
  rcases hp with ⟨name, -, rfl⟩ | ⟨tag, htag, rfl⟩ | ⟨property, hproperty, tag, htag, rfl⟩
  · exact h.enums
  · exact h.tags tag htag
  · exact h.propertyTags property hproperty tag htag

theorem isModuleName_of_mem_needs (h : Ordinary s e) :
    ∀ p ∈ needs (specifierFrom s location) s.enumModule e, IsModuleName p.2 := by
  intro p hp
  rcases List.mem_append.mp hp with hp | hp
  · obtain ⟨r, -, rfl⟩ := List.mem_map.mp hp
    dsimp only
    exact isModuleName_specifier s.resolver _ _
  · exact h.isModuleName p hp

theorem unresolved_settledImports (h : Ordinary s e) (location : Location) :
    (settledImports s e location).unresolved = [] :=
  ImportList.unresolved_of_modules (isModuleName_of_mem_needs h)

/-! ## 3. Where the lists lead -/

variable {ask : String → Except GenerateError String} {answer : String → String}
  {result : ImportList × Nat}

/-- If a list is resolved, the targets among what it has been registered with have answers. -/
theorem asked_of_resolveWith {pairs : List (String × String)}
    (h : (({} : ImportList).registerAll pairs).resolveWith ask = .ok result)
    (hanswer : ∀ target origin, ask target = .ok origin → origin = answer target)
    {symbol target : String} (hmem : (symbol, placeholder target) ∈ pairs) :
    ask target = .ok (answer target) := by
  obtain ⟨answer', hanswer'⟩ := ImportList.exists_answers h
  obtain ⟨r, hr, horigin, -⟩ := ImportList.exists_record_iff.mpr hmem
  have htarget : r.target? = some target := placeholderTarget?_eq_some_iff.mpr horigin
  have hask := hanswer' r hr target htarget
  rw [hask, hanswer target _ hask]

theorem mem_placeholders {targets : List String} {target : String} (h : target ∈ targets) :
    (Naming.pascal target, placeholder target)
      ∈ targets.map fun r => (Naming.pascal r, placeholder r) :=
  List.mem_map_of_mem (f := fun r => (Naming.pascal r, placeholder r)) h

/-- **What has been registered once is resolved** to what would have been registered with all
specifiers known. -/
theorem resolveWith_needs (hordinary : Ordinary s e)
    (h : (({} : ImportList).registerAll (needs placeholder s.enumModule e)).resolveWith ask
      = .ok result)
    (hanswer : ∀ target origin, ask target = .ok origin → origin = answer target) :
    result.1 = ({} : ImportList).registerAll (needs answer s.enumModule e) := by
  have hask : ∀ target ∈ e.relations, ask target = .ok (answer target) := fun target ht =>
    asked_of_resolveWith h hanswer (List.mem_append_left _ (mem_placeholders ht))
  have hnone : ∀ p ∈ ([] : List (String × String)), IsModuleName p.2 :=
    fun _ hp => absurd hp List.not_mem_nil
  have hresolve := ImportList.resolveWith_between Naming.pascal hnone hordinary.isModuleName
    (fun _ _ => List.not_mem_nil) hask
  rw [needs] at h
  rw [List.nil_append, List.nil_append, h] at hresolve
  exact (Prod.mk.inj (Except.ok.inj hresolve)).1

/-- Of what is registered again, only the placeholders are new. -/
theorem registerAll_again (answer : String → String) (enumModule : String) (e : Entity) :
    (({} : ImportList).registerAll (needs answer enumModule e)).registerAll
        (needs placeholder enumModule e)
      = ({} : ImportList).registerAll (needs answer enumModule e ++
          (e.relations.map (fun r => (Naming.pascal r, placeholder r)) ++ [])) := by
  rw [← ImportList.registerAll_append, List.append_nil]
  conv_lhs => rw [needs.eq_1 placeholder, ← List.append_assoc]
  refine ImportList.registerAll_append_of_subset fun p hp => ?_
  exact List.mem_append_left _ (List.mem_append_right _ hp)

/-- **What is registered again is resolved to what was there before**: nothing is added, and nothing
changes its place. -/
theorem resolveWith_again
    (hmodules : ∀ p ∈ needs answer s.enumModule e, IsModuleName p.2)
    (h : ((({} : ImportList).registerAll (needs answer s.enumModule e)).registerAll
      (needs placeholder s.enumModule e)).resolveWith ask = .ok result)
    (hanswer : ∀ target origin, ask target = .ok origin → origin = answer target) :
    result.1 = ({} : ImportList).registerAll (needs answer s.enumModule e) := by
  rw [registerAll_again] at h
  have hask : ∀ target ∈ e.relations, ask target = .ok (answer target) := fun target ht =>
    asked_of_resolveWith h hanswer
      (List.mem_append_right _ (List.mem_append_left _ (mem_placeholders ht)))
  have hnone : ∀ p ∈ ([] : List (String × String)), IsModuleName p.2 :=
    fun _ hp => absurd hp List.not_mem_nil
  have hresolve := ImportList.resolveWith_between Naming.pascal hmodules hnone
    (fun _ hp => absurd hp List.not_mem_nil) hask
  have hold : ∀ p ∈ e.relations.map (fun r => (Naming.pascal r, answer r)) ++ [],
      p ∈ needs answer s.enumModule e := fun p hp => by
    rw [List.append_nil] at hp
    exact List.mem_append_left _ hp
  rw [h, ImportList.registerAll_append_of_subset hold] at hresolve
  exact (Prod.mk.inj (Except.ok.inj hresolve)).1

/-! ## 4. Any sequence of calls -/

/-- A place that has been given stays, so the lists of a place are never those of another. -/
theorem imported_place {registered : Bool} {place : Option Location} {l : ImportList}
    (h : Imported s e place registered l) (other : Location) :
    Imported s e (some (place.getD other)) registered l := by
  cases h with
  | fresh => exact .fresh
  | registered => exact .registered
  | settled => exact .settled
  | again => exact .again

/-- Registration leads from one of the four lists to another. -/
theorem imported_register {registered : Bool} {place : Option Location} {l : ImportList}
    (h : Imported s e place registered l) :
    Imported s e place true (l.registerAll (neededImports s.enumModule e)) := by
  -- what has just been registered is registered already
  have htwice : ∀ pairs, (({} : ImportList).registerAll
      (pairs ++ neededImports s.enumModule e)).registerAll (neededImports s.enumModule e)
        = ({} : ImportList).registerAll (pairs ++ neededImports s.enumModule e) := fun pairs => by
    rw [← ImportList.registerAll_append]
    exact ImportList.registerAll_append_of_subset fun p hp => List.mem_append_right _ hp
  cases h with
  | fresh => exact .registered
  | registered =>
    have hagain := htwice []
    rw [List.nil_append] at hagain
    rw [hagain]
    exact .registered
  | settled => exact .again
  | @again location =>
    have hagain := htwice (needs (specifierFrom s location) s.enumModule e)
    rw [ImportList.registerAll_append] at hagain
    rw [settledImports, hagain]
    exact .again

/-- **What a list is resolved to**, if anything has been registered. -/
theorem eq_settledImports (hordinary : Ordinary s e) {l : ImportList}
    (h : Imported s e (some location) true l)
    (hresolve : l.resolveWith (specifierOf s.locations s.resolver e.name location.path)
      = .ok result) : result.1 = settledImports s e location := by
  have hanswer : ∀ target origin,
      specifierOf s.locations s.resolver e.name location.path target = .ok origin →
        origin = specifierFrom s location target := fun _ _ h => eq_of_specifierOf h
  cases h with
  | registered =>
    rw [neededImports_eq_needs] at hresolve
    exact resolveWith_needs hordinary hresolve hanswer
  | settled =>
    rw [ImportList.resolveWith_of_resolved (unresolved_settledImports hordinary location)]
      at hresolve
    exact (congrArg Prod.fst (Except.ok.inj hresolve)).symm
  | again =>
    rw [neededImports_eq_needs] at hresolve
    exact resolveWith_again (isModuleName_of_mem_needs hordinary) hresolve hanswer

/-- Resolution does, too, if it succeeds. -/
theorem imported_resolve (hordinary : Ordinary s e) {registered : Bool} {l : ImportList}
    (h : Imported s e (some location) registered l)
    (hresolve : l.resolveWith (specifierOf s.locations s.resolver e.name location.path)
      = .ok result) : Imported s e (some location) registered result.1 := by
  cases registered with
  | false =>
    cases h with
    | fresh =>
      rw [ImportList.resolveWith_of_resolved (l := {}) rfl] at hresolve
      cases hresolve
      exact .fresh
  | true =>
    rw [eq_settledImports hordinary h hresolve]
    exact .settled

end Lists

def Call.isRegister : Call → Bool
  | .register => true
  | _ => false

variable {s : Surroundings} {e : Entity}

theorem perform_resolve (s : Surroundings) (f : ClassFile) :
    (perform s .resolve).run.run f = match f.resolve s.locations s.resolver with
      | .ok (resolved, _) => (.ok (), resolved)
      | .error e => (.error e, f) := by
  have hrun := run_resolveInPlace s f
  cases hresolve : f.resolve s.locations s.resolver with
  | error error =>
    rw [hresolve] at hrun
    exact run_bind_of_error hrun
  | ok result =>
    rw [hresolve] at hrun
    exact run_bind_of_ok hrun

theorem perform_render (s : Surroundings) (template : Template) (f : ClassFile) :
    (perform s (.render template)).run.run f
      = ((f.render template).map fun _ => (), f) := by
  rw [perform, run_bind_of_ok (run_get f)]
  cases f.render template <;> rfl

/-- **One call leaves the entity alone, and gives a place only where there is none.** -/
theorem frame_perform (s : Surroundings) (f : ClassFile) (call : Call) :
    ((perform s call).run.run f).2.entity = f.entity ∧
      ((perform s call).run.run f).2.location = f.location.or (call.location? f.entity) := by
  cases call with
  | place placement =>
    refine ⟨rfl, ?_⟩
    change some (f.location.getD (placement f.entity)) = f.location.or (some (placement f.entity))
    cases f.location <;> rfl
  | register => exact ⟨rfl, (Option.or_none ..).symm⟩
  | resolve =>
    rw [perform_resolve, Call.location?, Option.or_none]
    · cases hresolve : f.resolve s.locations s.resolver with
      | error error => exact ⟨rfl, rfl⟩
      | ok result =>
        obtain ⟨g, count⟩ := result
        obtain ⟨location, imports, -, -, rfl⟩ := exists_of_resolve hresolve
        exact ⟨rfl, rfl⟩
    · exact nofun
  | render template =>
    rw [perform_render, Call.location?, Option.or_none]
    · exact ⟨rfl, rfl⟩
    · exact nofun

theorem frame_after (s : Surroundings) (e : Entity) (calls : List Call) :
    (after s { entity := e } calls).entity = e ∧
      (after s { entity := e } calls).location = calls.findSome? (·.location? e) := by
  induction calls using List.reverseRecOn with
  | nil => exact ⟨rfl, rfl⟩
  | append_singleton calls call ih =>
    obtain ⟨hentity, hlocation⟩ := ih
    obtain ⟨hentity', hlocation'⟩ := frame_perform s (after s { entity := e } calls) call
    rw [after_concat, hentity', hlocation', hentity, hlocation, List.findSome?_append]
    refine ⟨rfl, ?_⟩
    rw [List.findSome?_cons, List.findSome?_nil]
    cases call.location? e <;> rfl

/-- **One call leads from one of the four lists to another**, whether it succeeds or not. -/
theorem imported_perform (hordinary : Ordinary s e) {registered : Bool} {f : ClassFile}
    (hentity : f.entity = e) (h : Imported s e f.location registered f.imports) (call : Call) :
    Imported s e ((perform s call).run.run f).2.location (registered || call.isRegister)
      ((perform s call).run.run f).2.imports := by
  cases call with
  | place placement =>
    change Imported s e _ (registered || false) f.imports
    rw [Bool.or_false]
    exact imported_place h (placement f.entity)
  | register =>
    change Imported s e f.location (registered || true)
      (f.imports.registerAll (neededImports s.enumModule f.entity))
    rw [Bool.or_true, hentity]
    exact imported_register h
  | resolve =>
    change Imported s e _ (registered || false) _
    rw [Bool.or_false, perform_resolve]
    cases hresolve : f.resolve s.locations s.resolver with
    | error error => exact h
    | ok result =>
      obtain ⟨g, count⟩ := result
      obtain ⟨location, imports, hlocation, hask, rfl⟩ := exists_of_resolve hresolve
      rw [hlocation] at h
      rw [hentity] at hask
      dsimp only
      rw [hlocation]
      exact imported_resolve hordinary h hask
  | render template =>
    change Imported s e _ (registered || false) _
    rw [Bool.or_false, perform_render]
    exact h

/-- **So does any sequence of calls** on a new file. -/
theorem imported_after (hordinary : Ordinary s e) (calls : List Call) :
    Imported s e (after s { entity := e } calls).location (calls.any (·.isRegister))
      (after s { entity := e } calls).imports := by
  induction calls using List.reverseRecOn with
  | nil => exact .fresh
  | append_singleton calls call ih =>
    rw [after_concat, List.any_append, List.any_cons, List.any_nil, Bool.or_false]
    exact imported_perform hordinary (frame_after s e calls).1 ih call

/-- **What any sequence of calls leads to**, in any order and with failures among them.  The entity
and the first place stay; a resolution that fails, and every rendering, leave the file as it was;
each resolution that succeeds behind a registration gives the same imports, in which nothing waits;
and a file is rendered exactly if it has a place and imports from nothing but modules. -/
theorem imports_converge (s : Surroundings) (e : Entity) (hordinary : Ordinary s e)
    (calls : List Call) {f : ClassFile} (hf : after s { entity := e } calls = f) :
    f.entity = e ∧
    f.location = calls.findSome? (·.location? e) ∧
    (∀ error g, (resolveInPlace s).run.run f = (.error error, g) → g = f) ∧
    (∀ template, ((perform s (.render template)).run.run f).2 = f) ∧
    (.register ∈ calls → ∀ count g, (resolveInPlace s).run.run f = (.ok count, g) →
      (∃ location, f.location = some location ∧
        g = { f with imports := settledImports s e location }) ∧
      (resolveInPlace s).run.run g = (.ok 0, g)) ∧
    ((∃ text, f.render .classFile = .ok text) ↔
      f.location.isSome = true ∧ ∀ r ∈ f.imports.records, IsModuleName r.origin) := by
  obtain ⟨hentity, hlocation⟩ := frame_after s e calls
  have himports := imported_after hordinary calls
  rw [hf] at hentity hlocation himports
  refine ⟨hentity, hlocation, fun error g => eq_of_run_resolveInPlace,
    fun template => by rw [perform_render], ?_, ?_⟩
  · intro hregister count g hrun
    have hregistered : calls.any (·.isRegister) = true :=
      List.any_eq_true.mpr ⟨.register, hregister, rfl⟩
    obtain ⟨location, imports, hplace, hask, rfl⟩ :=
      exists_of_resolve (run_resolveInPlace_eq_ok.mp hrun)
    rw [hregistered, hplace] at himports
    rw [hentity] at hask
    obtain rfl : imports = settledImports s e location :=
      eq_settledImports hordinary himports hask
    refine ⟨⟨location, hplace, rfl⟩, run_resolveInPlace_eq_ok.mpr ?_⟩
    exact resolve_of_resolved (unresolved_settledImports hordinary location) hplace
  · rw [render_succeeds_iff, ImportList.unresolved, List.filter_eq_nil_iff]
    refine and_congr_right fun _ => forall₂_congr fun r _ => ?_
    rw [ImportRecord.isPlaceholder, ImportRecord.target?, Bool.not_eq_true,
      Option.isSome_eq_false_iff, Option.isNone_iff_eq_none, placeholderTarget?_eq_none_iff]

/-- One module exports the enums, the decorators and a class. -/
def sharedSurroundings : Surroundings :=
  ⟨"./post", [("Post", ⟨"out/post.ts"⟩)], ⟨⟨"/"⟩⟩⟩

/-- A user with posts and a role. -/
def sharedEntity : Entity where
  name := "User"
  properties := [⟨"posts", "Post[]", .object, [⟨"ApiProperty", "./post", []⟩]⟩,
    ⟨"role", "Role", .enum, []⟩]
  relations := ["Post"]
  enums := ["Role"]
  tags := [⟨"ApiExtraModels", "./post", []⟩]

/-- Resolution without a place, two places, and registration behind resolution. -/
def interleaved : List Call :=
  [.resolve, .register, .place (.flat ⟨"out"⟩ "ts"), .resolve, .render .classFile,
    .place (.nested ⟨"src"⟩ "ts"), .register]

theorem imports_converge_interleaved :
    Ordinary sharedSurroundings sharedEntity ∧ .register ∈ interleaved ∧
      ∃ f g, after sharedSurroundings { entity := sharedEntity } interleaved = f ∧
        f.location = some (.mk ⟨"out"⟩ "user.ts") ∧
        ¬ (∃ text, f.render .classFile = .ok text) ∧
        (resolveInPlace sharedSurroundings).run.run f = (.ok 1, g) ∧
        g.imports = ⟨[⟨"./post", ["Post", "Role", "ApiExtraModels", "ApiProperty"]⟩]⟩ ∧
        (resolveInPlace sharedSurroundings).run.run g = (.ok 0, g) := by
  have hordinary : Ordinary sharedSurroundings sharedEntity :=
    ⟨by decide, by decide, by decide⟩
  have hregister : .register ∈ interleaved := by simp [interleaved]
  obtain ⟨f, hf⟩ : ∃ f, after sharedSurroundings { entity := sharedEntity } interleaved = f :=
    ⟨_, rfl⟩
  obtain ⟨-, hlocation, -, -, hsettled, hrender⟩ :=
    imports_converge sharedSurroundings sharedEntity hordinary interleaved hf
  have hplace : f.location = some (.mk ⟨"out"⟩ "user.ts") :=
    hlocation.trans (by decide +kernel)
  have hwaits : ¬ ∀ r ∈ f.imports.records, IsModuleName r.origin := by
    rw [← hf]
    decide +kernel
  have hcount : ((resolveInPlace sharedSurroundings).run.run f).1 = .ok 1 := by
    rw [← hf]
    decide +kernel
  obtain ⟨g, hrun⟩ : ∃ g, (resolveInPlace sharedSurroundings).run.run f = (.ok 1, g) :=
    ⟨_, Prod.ext hcount rfl⟩
  obtain ⟨⟨location, hlocated, hfile⟩, hagain⟩ := hsettled hregister 1 g hrun
  obtain rfl : location = .mk ⟨"out"⟩ "user.ts" :=
    Option.some.inj (hlocated.symm.trans hplace)
  have himports : settledImports sharedSurroundings sharedEntity (.mk ⟨"out"⟩ "user.ts")
      = ⟨[⟨"./post", ["Post", "Role", "ApiExtraModels", "ApiProperty"]⟩]⟩ := by decide +kernel
  refine ⟨hordinary, hregister, f, g, hf, hplace, fun h => hwaits (hrender.mp h).2, hrun, ?_,
    hagain⟩
  rw [hfile, himports]

end ClassFile

end SchemaClass
