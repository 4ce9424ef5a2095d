import SchemaClass.Command.Program
import SchemaClass.Proofs.Build.Delivery
/-!
# What a check promises

A check and a generation that only shows its files go the same way at first: both read the
configuration and the document and run all phases.  Then a check looks at what lints have found, and
generation renders the files.  Lints find no errors where a run succeeds, and the files of such a
run can be rendered, so neither can fail any more.  Nor does either of them change the disk.

* `Reading`: programs that leave a tree as it is;
* `run_preview`: phases do not ask whether files are to be written;
* `Generable`: what both commands need, and `check_ok_iff`, `generate_ok_iff`;
* `ofWords_check`, `ofWords_generate`: the two command lines are understood alike;
* `check_predicts_generate`: the two commands end alike.
-/

namespace SchemaClass

open Outcome

/-! ## 1. Programs that only read -/

namespace FileTree

/-- A program that leaves every tree as it is. -/
def Reading {α : Type} (x : StateM FileTree α) : Prop := ∀ t, (x t).2 = t

namespace Reading

variable {α β : Type} {x : StateM FileTree α} {f : α → StateM FileTree β}

theorem pure (a : α) : Reading (pure a : StateM FileTree α) := fun _ => rfl

theorem bind (hx : Reading x) (hf : ∀ a, Reading (f a)) : Reading (x >>= f) := fun t =>
  (hf _ _).trans (hx t)

/-- What comes behind a program that only reads finds the same tree. -/
theorem run_bind (hx : Reading x) (t : FileTree) : (x >>= f) t = f (x t).1 t :=
  congrArg (f (x t).1) (hx t)

end Reading

section Loading

variable {α : Type} {t : FileTree} {p : Path}

theorem reading_loadWith (parse : String → String → Except SchemaError α) (p : Path) :
    Reading (loadWith parse p : StateM FileTree _) := by
  rw [loadWith]
  refine .bind (fun _ => rfl) fun result => ?_
  split <;> exact .pure _

/-- **A file is loaded if it can be read and its text can.** -/
theorem loadWith_ok_iff {parse : String → String → Except SchemaError α} {a : α} :
    ((loadWith parse p : StateM FileTree _) t).1 = .ok a ↔
      ∃ text, t.read p = .ok text ∧ parse p.text text = .ok a := by
  have hread : (Disk.readText p : StateM FileTree _) t = (t.read p, t) := rfl
  rw [loadWith, FileTree.run_bind hread]
  cases t.read p with
  | error e => exact ⟨nofun, fun ⟨_, h, _⟩ => nomatch h⟩
  | ok text =>
    constructor
    · exact fun h => ⟨text, rfl, h⟩
    · rintro ⟨_, heq, h⟩
      cases heq
      exact h

/-- What can be read is there. -/
theorem isSome_find?_of_read {text : String} (h : t.read p = .ok text) :
    (t.find? p).isSome = true := by
  obtain ⟨place, hwalk, htext⟩ := read_eq_ok_iff.mp h
  rw [find?, hwalk]
  dsimp only
  rw [text?_eq_some.mp htext]
  rfl

theorem reading_load (p : Path) (input : Option Path) :
    Reading (Project.load p input : StateM FileTree _) := by
  unfold Project.load
  refine .bind (fun _ => rfl) fun there => ?_
  split
  · refine .bind (reading_loadWith Config.parse p) fun result => ?_
    split <;> exact .pure _
  · split <;> exact .pure _

/-- **A project is loaded if its configuration is.** -/
theorem load_ok_iff {project : Project} :
    ((Project.load p none : StateM FileTree _) t).1 = .ok project ↔
      ∃ c text, t.read p = .ok text ∧ Config.parse p.text text = .ok c ∧
        project = ⟨c, Project.rootOf p⟩ := by
  have hexists : (Disk.pathExists p : StateM FileTree _) t = ((t.find? p).isSome, t) := rfl
  rw [Project.load, FileTree.run_bind hexists]
  cases hthere : (t.find? p).isSome with
  | false =>
    refine ⟨nofun, fun ⟨_, _, hread, _⟩ => ?_⟩
    cases hthere.symm.trans (isSome_find?_of_read hread)
  | true =>
    have hload : ∀ c, ((Config.load p : StateM FileTree _) t).1 = .ok c ↔ _ := fun _ =>
      loadWith_ok_iff
    have hreads : Reading (Config.load p : StateM FileTree _) := reading_loadWith Config.parse p
    rw [if_pos rfl, hreads.run_bind t]
    generalize ((Config.load p : StateM FileTree _) t).1 = loaded at hload
    cases loaded with
    | error e =>
      refine ⟨nofun, fun ⟨c, text, hread, hparse, _⟩ => ?_⟩
      cases (hload c).mpr ⟨text, hread, hparse⟩
    | ok c =>
      obtain ⟨text, hread, hparse⟩ := (hload c).mp rfl
      constructor
      · exact fun h => ⟨c, text, hread, hparse, (Except.ok.inj h).symm⟩
      · rintro ⟨c', text', hread', hparse', rfl⟩
        cases (hload c').mpr ⟨text', hread', hparse'⟩
        rfl

end Loading

end FileTree

/-! ## 2. Runs without writing -/

/-- A configuration of runs that only show their files. -/
def Config.preview (c : Config) : Config := { c with dryRun := true }

theorem Config.inputPath_preview (c : Config) (root : Path) :
    c.preview.inputPath root = c.inputPath root := rfl

def Build.preview (b : Build) : Build := { b with config := b.config.preview }

/-- A phase that does not ask whether files are to be written. -/
def Phase.Blind (p : Phase) : Prop :=
  ∀ b, p.run b.preview = ((p.run b).1.preview, (p.run b).2)

namespace Pipeline

theorem blind_typeScript : ∀ p ∈ typeScript.phases, p.Blind := by
  have hvalidate : Phase.validate.Blind := fun _ => rfl
  have hconvert : (Phase.convert .typeScript).Blind := by
    intro b
    have hsame : b.preview.document.entities .typeScript b.preview.config.decoration
        = b.document.entities .typeScript b.config.decoration := rfl
    simp only [Phase.convert, hsame]
    cases b.document.entities .typeScript b.config.decoration <;> rfl
  have hplace : (Phase.place "ts").Blind := by
    intro b
    cases hes : b.entities with
    | none =>
      rw [Build.run_place_none "ts" hes]
      exact Build.run_place_none "ts" (b := b.preview) hes
    | some es =>
      cases hresult : ((Batch.ofEntities es).placeAll (Phase.placementOf "ts" b)).2 with
      | ok u =>
        have hplaced : (Batch.ofEntities es).placeAll (Phase.placementOf "ts" b) = (_, .ok ()) :=
          Prod.ext rfl hresult
        rw [run_place hes hplaced]
        exact run_place (b := b.preview) hes hplaced
      | error e =>
        rw [Build.run_place_error "ts" hes hresult]
        exact Build.run_place_error "ts" (b := b.preview) hes hresult
  have hregister : Phase.register.Blind := by
    rintro ⟨document, config, root, entities, batch, diagnostics⟩
    cases batch <;> rfl
  have hresolve : Phase.resolve.Blind := by
    rintro ⟨document, config, root, entities, batch, diagnostics⟩
    cases batch <;> rfl
  simp only [typeScript, standard, List.forall_mem_cons]
  exact ⟨hvalidate, hconvert, hplace, hregister, hresolve, fun p hp => absurd hp List.not_mem_nil⟩

/-- Phases that do not ask lead to the same builds. -/
theorem runPhases_preview {phases : List Phase} (h : ∀ p ∈ phases, p.Blind) (b : Build) :
    (runPhases phases b.preview).map (·.1) = ((runPhases phases b).map (·.1)).map (·.preview) := by
  induction phases generalizing b with
  | nil => rfl
  | cons phase phases ih =>
    obtain ⟨hphase, hphases⟩ := List.forall_mem_cons.mp h
    cases hrun : phase.run b with
    | mk after result =>
      have hrun' : phase.run b.preview = (after.preview, result) := by rw [hphase, hrun]
      cases result with
      | ok u => rw [runPhases_cons hrun, runPhases_cons hrun', ih hphases]
      | error e =>
        rw [runPhases, runPhases, hrun, hrun']
        rfl

/-- **A run ends alike whether its files are to be written or not.** -/
theorem run_preview (d : Document) (c : Config) (root : Path) :
    typeScript.run d c.preview root = (typeScript.run d c root).map (·.preview) :=
  runPhases_preview blind_typeScript { document := d, config := c, root := root }

/-- **Lints find no errors where a run succeeds.** -/
theorem calm_of_run {d : Document} {c : Config} {root : Path} {last : Build}
    (h : typeScript.run d c root = .ok last) : ∀ x ∈ last.diagnostics, x.severity ≠ .error :=
  (Build.coherent_of_run h).calm

end Pipeline

namespace Command

open FileTree

/-! ## 3. When the commands succeed -/

variable {t : FileTree} {p : Path}

/-- What both commands need: a configuration and a document that can be read, and a run that
succeeds. -/
structure Generable (t : FileTree) (configPath : Path) (c : Config) (d : Document) : Prop where
  config : ∃ text, t.read configPath = .ok text ∧ Config.parse configPath.text text = .ok c
  document : ∃ text, t.read (c.inputPath (Project.rootOf configPath)) = .ok text ∧
    Document.parse (c.inputPath (Project.rootOf configPath)).text text = .ok d
  run : ∃ build, Pipeline.typeScript.run d c (Project.rootOf configPath) = .ok build

theorem checkDocument_ok_iff {project : Project} {d : Document} :
    (∃ result, checkDocument p project d = .ok result) ↔
      ∃ build, Pipeline.typeScript.run d project.config project.root = .ok build := by
  constructor
  · rintro ⟨result, h⟩
    obtain ⟨⟨build, log⟩, hlogged, -⟩ := bind_eq_ok.mp h
    refine ⟨build, map_eq_ok.mpr ⟨(build, log), ?_, rfl⟩⟩
    cases hrun : Pipeline.typeScript.runLogged d project.config project.root with
    | ok r =>
      rw [hrun] at hlogged
      exact congrArg Except.ok (Except.ok.inj hlogged)
    | error e =>
      rw [hrun] at hlogged
      cases hlogged
  · rintro ⟨build, hrun⟩
    have hvalid : (checkReport p d build).isValid = true := by
      simpa [CheckReport.isValid, checkReport] using Pipeline.calm_of_run hrun
    obtain ⟨⟨build', log⟩, hlogged, rfl⟩ := map_eq_ok.mp hrun
    refine ⟨⟨documentLine d :: log, (checkReport p d build').lines⟩,
      bind_eq_ok.mpr ⟨(build', log), ?_, if_pos hvalid⟩⟩
    rw [hlogged]
    rfl

/-- Generation that only shows its files does all it has to if the run succeeds. -/
theorem generateFrom_preview {project : Project} (hdry : project.config.dryRun = true)
    (d : Document) : ∃ result,
      (generateFrom project d : StateM FileTree _) t = (result, t) ∧
      ((∃ r, result = .ok r) ↔
        ∃ build, Pipeline.typeScript.run d project.config project.root = .ok build) := by
  rw [generateFrom]
  cases hlogged : Pipeline.typeScript.runLogged d project.config project.root with
  | error e =>
    refine ⟨_, rfl, nofun, fun ⟨build, hrun⟩ => ?_⟩
    rw [Pipeline.run, hlogged] at hrun
    cases hrun
  | ok logged =>
    obtain ⟨build, log⟩ := logged
    have hrun : Pipeline.typeScript.run d project.config project.root = .ok build :=
      map_eq_ok.mpr ⟨_, hlogged, rfl⟩
    obtain ⟨batch, os, htake, hos⟩ := Document.exists_outputs_of_run hrun
    have hmode : WriteMode.ofDryRun project.config.dryRun = .preview := by
      rw [hdry]
      rfl
    dsimp only
    rw [htake, hmode]
    dsimp only
    rw [run_bind (Batch.generate_preview hos t)]
    exact ⟨_, rfl, fun _ => ⟨build, hrun⟩, fun _ => ⟨_, rfl⟩⟩

/-- What loading comes to: it fails, and nothing can be generated, or it gives the one configuration
and the one document that could be. -/
theorem loading_cases (t : FileTree) (p : Path) :
    (∃ e, (Project.load p none : StateM FileTree _) t = (.error e, t) ∧
      ∀ c d, ¬ Generable t p c d) ∨
    ∃ c, (Project.load p none : StateM FileTree _) t = (.ok ⟨c, Project.rootOf p⟩, t) ∧
      ((∃ e, (Document.load (c.inputPath (Project.rootOf p)) : StateM FileTree _) t = (.error e, t) ∧
        ∀ c d, ¬ Generable t p c d) ∨
      ∃ d, (Document.load (c.inputPath (Project.rootOf p)) : StateM FileTree _) t = (.ok d, t) ∧
        ∀ c' d', Generable t p c' d' ↔ c' = c ∧ d' = d ∧
          ∃ build, Pipeline.typeScript.run d c (Project.rootOf p) = .ok build) := by
  have hload : ∀ project, ((Project.load p none : StateM FileTree _) t).1 = .ok project ↔ _ :=
    fun _ => load_ok_iff
  have hconfig : ∀ {c d}, Generable t p c d →
      ((Project.load p none : StateM FileTree _) t).1 = .ok ⟨c, Project.rootOf p⟩ := by
    rintro c d ⟨⟨text, hread, hparse⟩, -, -⟩
    exact (hload _).mpr ⟨c, text, hread, hparse, rfl⟩
  -- whatever could be generated has this configuration, and then this document
  cases hloaded : ((Project.load p none : StateM FileTree _) t).1 with
  | error e =>
    refine Or.inl ⟨e, Prod.ext hloaded (reading_load p none t), fun c d h => ?_⟩
    cases hloaded.symm.trans (hconfig h)
  | ok project =>
    obtain ⟨c, text, hread, hparse, rfl⟩ := (hload project).mp hloaded
    refine Or.inr ⟨c, Prod.ext hloaded (reading_load p none t), ?_⟩
    have hreads : Reading (Document.load (c.inputPath (Project.rootOf p)) : StateM FileTree _) :=
      reading_loadWith Document.parse _
    have hdocument : ∀ {c' d}, Generable t p c' d → c' = c ∧
        ((Document.load (c.inputPath (Project.rootOf p)) : StateM FileTree _) t).1 = .ok d := by
      intro c' d h
      obtain rfl : c' = c := by
        cases hloaded.symm.trans (hconfig h)
        rfl
      exact ⟨rfl, loadWith_ok_iff.mpr h.document⟩
    cases hread' : ((Document.load (c.inputPath (Project.rootOf p)) : StateM FileTree _) t).1 with
    | error e =>
      refine Or.inl ⟨e, Prod.ext hread' (hreads t), fun c' d h => ?_⟩
      cases hread'.symm.trans (hdocument h).2
    | ok d =>
      refine Or.inr ⟨d, Prod.ext hread' (hreads t), fun c' d' => ⟨fun h => ?_, ?_⟩⟩
      · obtain ⟨rfl, hd⟩ := hdocument h
        cases hread'.symm.trans hd
        exact ⟨rfl, rfl, h.run⟩
      · rintro ⟨rfl, rfl, hrun⟩
        exact ⟨⟨text, hread, hparse⟩, loadWith_ok_iff.mp hread', hrun⟩

/-- **When a check succeeds**; it leaves the disk as it is. -/
theorem check_ok_iff (o : CheckOptions) (t : FileTree) : ∃ result,
    (check o : StateM FileTree _) t = (result, t) ∧
    ((∃ r, result = .ok r) ↔ ∃ c d, Generable t (o.config.getD defaultConfig) c d) := by
  rw [check]
  rcases loading_cases t (o.config.getD defaultConfig) with
    ⟨e, hload, hnone⟩ | ⟨c, hload, ⟨e, hdocument, hnone⟩ | ⟨d, hdocument, hone⟩⟩
  · rw [run_bind hload]
    exact ⟨_, rfl, nofun, fun ⟨c, d, h⟩ => absurd h (hnone c d)⟩
  · rw [run_bind hload]
    dsimp only
    rw [run_bind hdocument]
    exact ⟨_, rfl, nofun, fun ⟨c, d, h⟩ => absurd h (hnone c d)⟩
  · rw [run_bind hload]
    dsimp only
    rw [run_bind hdocument]
    refine ⟨_, rfl, checkDocument_ok_iff.trans ?_⟩
    simp [hone]

theorem override_preview (here : Path) (config : Option Path) (c : Config) :
    override here { config, dryRun := true } c = c.preview := by
  simp [override, Config.preview]

/-- **When generation that only shows its files succeeds**; it leaves the disk as it is, too. -/
theorem generate_ok_iff (here : Path) (config : Option Path) (t : FileTree) : ∃ result,
    (generate here { config, dryRun := true } : StateM FileTree _) t = (result, t) ∧
    ((∃ r, result = .ok r) ↔ ∃ c d, Generable t (config.getD defaultConfig) c d) := by
  rw [generate]
  dsimp only
  rcases loading_cases t (config.getD defaultConfig) with
    ⟨e, hload, hnone⟩ | ⟨c, hload, ⟨e, hdocument, hnone⟩ | ⟨d, hdocument, hone⟩⟩
  · rw [run_bind hload]
    exact ⟨_, rfl, nofun, fun ⟨c, d, h⟩ => absurd h (hnone c d)⟩
  · rw [run_bind hload]
    dsimp only
    rw [override_preview, Config.inputPath_preview, run_bind hdocument]
    exact ⟨_, rfl, nofun, fun ⟨c, d, h⟩ => absurd h (hnone c d)⟩
  · rw [run_bind hload]
    dsimp only
    rw [override_preview, Config.inputPath_preview, run_bind hdocument]
    have hdry : (⟨c.preview, Project.rootOf (config.getD defaultConfig)⟩ : Project).config.dryRun
      = true := rfl
    obtain ⟨result, hresult, hiff⟩ := generateFrom_preview (t := t) hdry d
    refine ⟨result, hresult, hiff.trans ?_⟩
    rw [Pipeline.run_preview]
    simp [hone, map_eq_ok]

/-! ## 4. The words -/

/-- The words that name a configuration, if one is named. -/
def configWords : Option String → List String
  | none => []
  | some word => ["-c", word]

/-- The configuration that is named. -/
def namedConfig : Option String → Except Misuse (Option Path)
  | none => .ok none
  | some word =>
    if word = "--" ∨ word ≠ "-" ∧ word.toList.head? = some '-' then .error {}
    else (pathOf word).map some

/-- The word behind an option that waits for one. -/
theorem readOptions_waiting {σ : Type} (o : Options σ) (settings : σ)
    (set : σ → String → Except Misuse σ) (g : Option Path → σ)
    (hset : ∀ word, set settings word = (pathOf word).map fun p => g (some p)) (word : String)
    (words : List String) : readOptions o (.waiting settings set) (word :: words)
      = namedConfig (some word) >>= fun p => readOptions o (.ready (g p)) words := by
  have hword : readOptions o (.waiting settings set) (word :: words)
      = if word = "--" then .error {}
        else readWord o (.waiting settings set) word.toList >>= fun p => readOptions o p words := by
    rw [readOptions]
    · split <;> rfl
    · exact nofun
  have hset' : (do return Progress.ready (← set settings word)) >>= (fun p => readOptions o p words)
      = (pathOf word).map some >>= fun p => readOptions o (.ready (g p)) words := by
    rw [hset]
    cases pathOf word <;> rfl
  rw [hword, namedConfig]
  by_cases hends : word = "--"
  · rw [if_pos hends, if_pos (Or.inl hends)]
    rfl
  · rw [if_neg hends]
    by_cases hdash : word = "-"
    · subst hdash
      exact hset'
    · have hread : readWord o (.waiting settings set) word.toList
          = if word.toList.head? = some '-' then .error {}
            else do return .ready (← set settings word) := by
        rw [readWord, String.ofList_toList]
        intro h
        exact hdash (String.toList_inj.mp h)
      rw [hread]
      by_cases hhead : word.toList.head? = some '-'
      · rw [if_pos hhead, if_pos (Or.inr ⟨hdash, hhead⟩)]
        rfl
      · rw [if_neg hhead, if_neg fun h => h.elim hends fun h => hhead h.2]
        exact hset'

/-- **A check is understood** if its configuration is. -/
theorem ofWords_check (config : Option String) :
    Request.ofWords false ("check" :: configWords config)
      = (namedConfig config).map fun p => (false, .check { config := p }) := by
  cases config with
  | none => rfl
  | some word =>
    have hset : ∀ w, CheckOptions.setConfig {} w
        = (pathOf w).map fun p => { config := some p } := fun w => by
      rw [CheckOptions.setConfig]
      cases pathOf w <;> rfl
    have hread := readOptions_waiting CheckOptions.options {} CheckOptions.setConfig
      (fun p => { config := p }) hset word []
    have hwords : readOptions CheckOptions.options (.ready {}) ["-c", word]
        = (namedConfig (some word)).map fun p => { config := p } := by
      refine hread.trans ?_
      cases namedConfig (some word) <;> rfl
    show (do let o ← readOptions CheckOptions.options (.ready {}) ["-c", word]; return _) = _
    rw [hwords]
    cases namedConfig (some word) <;> rfl

/-- **So is a generation that only shows its files.** -/
theorem ofWords_generate (config : Option String) :
    Request.ofWords false ("generate" :: (configWords config ++ ["--dry-run"]))
      = (namedConfig config).map fun p => (false, .generate { config := p, dryRun := true }) := by
  cases config with
  | none => rfl
  | some word =>
    have hset : ∀ w, GenerateOptions.setConfig {} w
        = (pathOf w).map fun p => { config := some p } := fun w => by
      rw [GenerateOptions.setConfig]
      cases pathOf w <;> rfl
    have hread := readOptions_waiting GenerateOptions.options {} GenerateOptions.setConfig
      (fun p => { config := p }) hset word ["--dry-run"]
    have hwords : readOptions GenerateOptions.options (.ready {}) ["-c", word, "--dry-run"]
        = (namedConfig (some word)).map fun p => { config := p, dryRun := true } := by
      refine hread.trans ?_
      cases namedConfig (some word) <;> rfl
    show (do let o ← readOptions GenerateOptions.options (.ready {}) ["-c", word, "--dry-run"]
             return _) = _
    rw [hwords]
    cases namedConfig (some word) <;> rfl

/-! ## 5. The commands -/

/-- What is asked for is done with one exit code, whichever of the two it is. -/
theorem perform_agrees (here : Path) (filter : LogFilter) (config : Option Path) (t : FileTree) :
    ∃ checked generated : Outcome,
      (perform here filter (.check { config }) : StateM FileTree _) t = (checked, t) ∧
      (perform here filter (.generate { config, dryRun := true }) : StateM FileTree _) t
        = (generated, t) ∧
      checked.exitCode = generated.exitCode ∧
      (checked.exitCode = 0 ↔ ∃ c d, Generable t (config.getD defaultConfig) c d) := by
  obtain ⟨checked, hcheck, hchecked⟩ := check_ok_iff { config } t
  obtain ⟨generated, hgenerate, hgenerated⟩ := generate_ok_iff here config t
  rw [perform, perform, run_bind hcheck, run_bind hgenerate]
  have hboth := hchecked.trans hgenerated.symm
  cases checked with
  | ok r =>
    obtain ⟨r', rfl⟩ := hboth.mp ⟨r, rfl⟩
    exact ⟨_, _, rfl, rfl, rfl, fun _ => hchecked.mp ⟨r, rfl⟩, fun _ => rfl⟩
  | error e =>
    have hfails : ¬ ∃ c d, Generable t (config.getD defaultConfig) c d := fun h =>
      nomatch hchecked.mpr h
    cases generated with
    | ok r' => exact absurd (hgenerated.mp ⟨r', rfl⟩) hfails
    | error e' => exact ⟨_, _, rfl, rfl, rfl, nofun, fun h => absurd h hfails⟩

end Command

end SchemaClass
