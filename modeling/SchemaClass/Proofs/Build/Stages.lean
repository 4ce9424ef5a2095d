import SchemaClass.Proofs.Batch.Placed
import SchemaClass.Proofs.Build.Run
/-!
# Phases in any order

A pipeline runs its phases in order and stops at the first failure.  The phases themselves do not
rely on that: here they are run in any order and over and over again, and a phase that fails is
passed over with whatever it has changed.  Placement uses up the entities even if it fails, and a
batch stays until the next one has been placed.

* `Build.Runs`: all that a single phase can do, also where it fails;
* `Runs.continues`, `continues_after`: what a run was begun with stays, diagnostics are only added;
* `isSome_entities_after`: there are entities if conversion has succeeded since the last placement;
* `after_of_runPhases`: a pipeline that succeeds is one of these sequences.
-/

namespace SchemaClass

open Outcome

/-! ## 1. Sequences of phases -/

/-- The phases of a pipeline. -/
inductive Stage where
  | validate
  | convert
  | place
  | register
  | resolve
  deriving DecidableEq, Repr

/-- The phases in the order of a pipeline. -/
def Stage.inOrder : List Stage := [.validate, .convert, .place, .register, .resolve]

/-- The phase of a stage, for a target language and the extension of its files. -/
def Stage.phase (mapper : TypeMapper) (extension : String) : Stage → Phase
  | validate => .validate
  | convert => .convert mapper
  | place => .place extension
  | register => .register
  | resolve => .resolve

/-- A phase fails on a build. -/
def Phase.Fails (p : Phase) (b : Build) : Prop := ∃ e, (p.run b).2 = .error e

theorem Phase.not_fails_iff {p : Phase} {b : Build} : ¬ p.Fails b ↔ (p.run b).2 = .ok () := by
  rw [Fails]
  cases (p.run b).2 with
  | ok u => simp
  | error e => simp

namespace Build

/-- The build that a run begins with. -/
def initial (d : Document) (c : Config) (root : Path) : Build where
  document := d
  config := c
  root := root

variable (mapper : TypeMapper) (extension : String)

/-- The build behind a sequence of phases.  Those that fail are passed over. -/
def after (b : Build) (stages : List Stage) : Build :=
  stages.foldl (fun b s => ((s.phase mapper extension).run b).1) b

@[simp] theorem after_nil (b : Build) : b.after mapper extension [] = b := rfl

theorem after_append (b : Build) (ss ts : List Stage) :
    b.after mapper extension (ss ++ ts)
      = (b.after mapper extension ss).after mapper extension ts := List.foldl_append

theorem after_concat (b : Build) (ss : List Stage) (s : Stage) :
    b.after mapper extension (ss ++ [s])
      = ((s.phase mapper extension).run (b.after mapper extension ss)).1 :=
  after_append mapper extension b ss [s]

/-! ## 2. What single phases do -/

/-- **All that a phase can do** to a build, and whether it fails. -/
inductive Runs (b : Build) : Stage → Build → Except BuildError Unit → Prop where
  /-- Lints find no errors themselves. -/
  | validate {result : Except BuildError Unit}
      (h : (∀ x ∈ b.diagnostics, x.severity ≠ .error) → result = .ok ()) :
      Runs b .validate
        { b with diagnostics := b.diagnostics ++ Lint.standard.flatMap (·.check b.document) } result
  | convert {es : List Entity} (h : b.document.entities mapper b.config.decoration = .ok es) :
      Runs b .convert { b with entities := some es } (.ok ())
  | convertFailed {e : GenerateError}
      (h : b.document.entities mapper b.config.decoration = .error e) :
      Runs b .convert b (.error (.generate e))
  | place {es : List Entity} {batch : Batch} (hes : b.entities = some es)
      (h : (Batch.ofEntities es).placeAll (Phase.placementOf extension b) = (batch, .ok ())) :
      Runs b .place { b with entities := none, batch := some batch } (.ok ())
  /-- The entities are gone, and an older batch stays. -/
  | placeFailed {es : List Entity} {e : GenerateError} (hes : b.entities = some es)
      (h : ((Batch.ofEntities es).placeAll (Phase.placementOf extension b)).2 = .error e) :
      Runs b .place { b with entities := none } (.error (.generate e))
  | placeNothing (h : b.entities = none) : Runs b .place b (.error noEntities)
  | register {batch : Batch} (h : b.batch = some batch) :
      Runs b .register { b with batch := some (batch.registerAll b.config.enumModule) } (.ok ())
  | registerNothing (h : b.batch = none) : Runs b .register b (.error noBatch)
  | resolve {batch : Batch} (h : b.batch = some batch) :
      Runs b .resolve { b with batch := some (batch.resolveAll ⟨b.root⟩).1 }
        ((liftGenerate (batch.resolveAll ⟨b.root⟩).2).map fun _ => ())
  | resolveNothing (h : b.batch = none) : Runs b .resolve b (.error noBatch)

theorem run_place_error {b : Build} {es : List Entity} {e : GenerateError}
    (hes : b.entities = some es)
    (h : ((Batch.ofEntities es).placeAll (Phase.placementOf extension b)).2 = .error e) :
    (Phase.place extension).run b = ({ b with entities := none }, .error (.generate e)) := by
  have htake : b.takeEntities = ({ b with entities := none }, .ok es) := by
    rw [takeEntities, hes]
  obtain ⟨batch, hplace⟩ : ∃ batch, (Batch.ofEntities es).placeAll
      (Phase.placementOf extension { b with entities := none }) = (batch, .error e) :=
    ⟨_, Prod.ext rfl h⟩
  simp only [Phase.place, htake, hplace]

theorem run_place_none {b : Build} (h : b.entities = none) :
    (Phase.place extension).run b = (b, .error noEntities) := by
  have htake : b.takeEntities = (b, .error noEntities) := by
    rw [takeEntities, h]
  simp only [Phase.place, htake]

/-- **Every phase does one of these**, according to what it finds. -/
theorem exists_runs (s : Stage) (b : Build) : ∃ after result,
    (s.phase mapper extension).run b = (after, result) ∧
      b.Runs mapper extension s after result := by
  cases s with
  | validate =>
    refine ⟨_, _, rfl, .validate fun hcalm => ?_⟩
    exact congrArg Prod.snd (Pipeline.run_validate hcalm)
  | convert =>
    cases hes : b.document.entities mapper b.config.decoration with
    | ok es => exact ⟨_, _, Pipeline.run_convert hes, .convert hes⟩
    | error e =>
      have hrun : (Phase.convert mapper).run b = (b, .error (.generate e)) := by
        simp only [Phase.convert, hes]
      exact ⟨_, _, hrun, .convertFailed hes⟩
  | place =>
    cases hes : b.entities with
    | none => exact ⟨_, _, run_place_none extension hes, .placeNothing hes⟩
    | some es =>
      cases hplace : ((Batch.ofEntities es).placeAll (Phase.placementOf extension b)).2 with
      | error e => exact ⟨_, _, run_place_error extension hes hplace, .placeFailed hes hplace⟩
      | ok u =>
        have hall : (Batch.ofEntities es).placeAll (Phase.placementOf extension b) = (_, .ok ()) :=
          Prod.ext rfl hplace
        exact ⟨_, _, Pipeline.run_place hes hall, .place hes hall⟩
  | register =>
    cases hbatch : b.batch with
    | none =>
      have hrun : Phase.register.run b = (b, .error noBatch) := by
        simp only [Phase.register, hbatch]
      exact ⟨_, _, hrun, .registerNothing hbatch⟩
    | some batch => exact ⟨_, _, Pipeline.run_register hbatch, .register hbatch⟩
  | resolve =>
    cases hbatch : b.batch with
    | none =>
      have hrun : Phase.resolve.run b = (b, .error noBatch) := by
        simp only [Phase.resolve, hbatch]
      exact ⟨_, _, hrun, .resolveNothing hbatch⟩
    | some batch => exact ⟨_, _, Pipeline.run_resolve_eq hbatch, .resolve hbatch⟩

variable {mapper extension} {b : Build}

/-- What holds behind one more phase, if it follows from what that phase can do. -/
theorem after_concat_of_runs {motive : Build → Prop} {ss : List Stage} {s : Stage}
    (h : ∀ after result, (b.after mapper extension ss).Runs mapper extension s after result →
      motive after) : motive (b.after mapper extension (ss ++ [s])) := by
  obtain ⟨after, result, hrun, hruns⟩ :=
    exists_runs mapper extension s (b.after mapper extension ss)
  rw [after_concat, hrun]
  exact h after result hruns

/-- When a phase fails, if that follows from what it can do. -/
theorem fails_iff_of_runs {s : Stage} {p : Prop}
    (h : ∀ after result, b.Runs mapper extension s after result →
      ((∃ e, result = .error e) ↔ p)) : (s.phase mapper extension).Fails b ↔ p := by
  obtain ⟨after, result, hrun, hruns⟩ := exists_runs mapper extension s b
  rw [Phase.Fails, hrun]
  exact h after result hruns

/-! ### What stays -/

/-- A later build of the same run: nothing that it was begun with changes, and diagnostics are only
added. -/
structure Continues (before after : Build) : Prop where
  document : after.document = before.document
  config : after.config = before.config
  root : after.root = before.root
  diagnostics : before.diagnostics <+: after.diagnostics

theorem Continues.refl (b : Build) : b.Continues b := ⟨rfl, rfl, rfl, List.prefix_refl _⟩

theorem Continues.trans {a b c : Build} (hab : a.Continues b) (hbc : b.Continues c) :
    a.Continues c :=
  ⟨hbc.document.trans hab.document, hbc.config.trans hab.config, hbc.root.trans hab.root,
    hab.diagnostics.trans hbc.diagnostics⟩

/-- **A phase leaves alone what the run was begun with**, and takes no diagnostic back. -/
theorem Runs.continues {s : Stage} {after : Build} {result : Except BuildError Unit}
    (h : b.Runs mapper extension s after result) : b.Continues after := by
  cases h with
  | validate => exact ⟨rfl, rfl, rfl, List.prefix_append _ _⟩
  | convertFailed | placeNothing | registerNothing | resolveNothing => exact .refl b
  | convert | place | placeFailed | register | resolve =>
    exact ⟨rfl, rfl, rfl, List.prefix_refl _⟩

theorem continues_after (mapper : TypeMapper) (extension : String) (b : Build)
    (stages : List Stage) : b.Continues (b.after mapper extension stages) := by
  induction stages using List.reverseRecOn with
  | nil => exact .refl b
  | append_singleton ss s ih => exact after_concat_of_runs fun _ _ hruns => ih.trans hruns.continues

/-! ## 3. When there are entities -/

/-- Entities are there after a phase if it has just made them, or left alone what was there. -/
theorem Runs.isSome_entities {s : Stage} {after : Build} {result : Except BuildError Unit}
    (h : b.Runs mapper extension s after result) : after.entities.isSome = true ↔
      (s = .convert ∧ result = .ok ()) ∨ (s ≠ .place ∧ b.entities.isSome = true) := by
  cases h with
  | validate | convert | convertFailed | place | placeFailed => simp
  | placeNothing hnone => simp [hnone]
  | register | registerNothing | resolve | resolveNothing => simp

/-- An element since which another has not been met, in a list that goes on by one. -/
theorem exists_since_concat {α : Type} {p : List α → Prop} {a z x : α} {l : List α} :
    (∃ before behind, l ++ [x] = before ++ a :: behind ∧ z ∉ behind ∧ p before) ↔
      (x = a ∧ p l) ∨
        (x ≠ z ∧ ∃ before behind, l = before ++ a :: behind ∧ z ∉ behind ∧ p before) := by
  constructor
  · rintro ⟨before, behind, hsplit, hz, hp⟩
    -- the new element is the one that is looked for, or it stands behind it
    rcases List.eq_nil_or_concat behind with rfl | ⟨rest, y, rfl⟩
    · obtain ⟨rfl, hlast⟩ := List.append_inj' hsplit rfl
      exact Or.inl ⟨(List.cons.inj hlast).1, hp⟩
    · have hrest : l ++ [x] = (before ++ a :: rest) ++ [y] := by
        rw [hsplit]
        simp
      obtain ⟨rfl, hlast⟩ := List.append_inj' hrest rfl
      obtain rfl : x = y := (List.cons.inj hlast).1
      simp only [List.concat_eq_append, List.mem_append, List.mem_singleton, not_or] at hz
      exact Or.inr ⟨fun hxz => hz.2 hxz.symm, before, rest, rfl, hz.1, hp⟩
  · rintro (⟨rfl, hp⟩ | ⟨hxz, before, behind, rfl, hz, hp⟩)
    · exact ⟨l, [], rfl, List.not_mem_nil, hp⟩
    · refine ⟨before, behind ++ [x], by simp, ?_, hp⟩
      rw [List.mem_append, List.mem_singleton, not_or]
      exact ⟨hz, fun hzx => hxz hzx.symm⟩

/-- **There are entities exactly if a conversion has succeeded since the last placement.** -/
theorem isSome_entities_after (mapper : TypeMapper) (extension : String) {b : Build}
    (hb : b.entities = none) (stages : List Stage) :
    (b.after mapper extension stages).entities.isSome = true ↔
      ∃ before behind, stages = before ++ .convert :: behind ∧ .place ∉ behind ∧
        ¬ (Phase.convert mapper).Fails (b.after mapper extension before) := by
  induction stages using List.reverseRecOn with
  | nil => simp [hb]
  | append_singleton ss s ih =>
    obtain ⟨next, result, hrun, hruns⟩ :=
      exists_runs mapper extension s (b.after mapper extension ss)
    -- the result is that of conversion only if the last phase was one
    have hsucceeds : s = .convert →
        (result = .ok () ↔ ¬ (Phase.convert mapper).Fails (b.after mapper extension ss)) := by
      rintro rfl
      have hconvert : (Phase.convert mapper).run (b.after mapper extension ss) = (next, result) :=
        hrun
      rw [Phase.not_fails_iff, hconvert]
    rw [after_concat, hrun, hruns.isSome_entities, ih, exists_since_concat,
      and_congr_right hsucceeds]

/-! ## 4. Pipelines -/

/-- **A pipeline that succeeds is a sequence of phases** none of which has failed. -/
theorem after_of_runPhases {stages : List Stage} {b last : Build} {lines : List LogLine}
    (h : Pipeline.runPhases (stages.map (Stage.phase mapper extension)) b = .ok (last, lines)) :
    b.after mapper extension stages = last := by
  induction stages generalizing b lines with
  | nil =>
    cases h
    rfl
  | cons s ss ih =>
    rw [List.map_cons, Pipeline.runPhases] at h
    cases hrun : (s.phase mapper extension).run b with
    | mk next result =>
      rw [hrun] at h
      cases result with
      | error e => cases h
      | ok u =>
        obtain ⟨⟨final, rest⟩, hrest, heq⟩ := bind_eq_ok.mp h
        cases heq
        have hnext : b.after mapper extension (s :: ss) = next.after mapper extension ss := by
          rw [after, List.foldl_cons, hrun]
          rfl
        rw [hnext]
        exact ih hrest

/-- **The run of the standard pipeline** is all phases in order. -/
theorem after_of_run {d : Document} {c : Config} {root : Path} {last : Build}
    (h : (Pipeline.standard mapper extension).run d c root = .ok last) :
    (initial d c root).after mapper extension Stage.inOrder = last := by
  obtain ⟨⟨b, lines⟩, hphases, rfl⟩ := map_eq_ok.mp h
  exact after_of_runPhases hphases

end Build

end SchemaClass
