import SchemaClass.Proofs.Command.Agreement
/-!
# What is reported of a generation

A report begins with the warnings of the run.  Files that have been written are listed by their
paths from the output directory on, so that each path can be put together again; files that are only
shown stand in the report themselves.  Whether files were to be written is not known to the report.
It tells by the files that it is given, and where there are none it says that none have been
generated, also if none were to be.

* `exists_outputs_of_generateFrom`: what a generation that succeeds has done;
* `Tells`: what a report says of that, in each of the two modes;
* `tells_of_preview`, `tells_of_persist`: every report says this;
* `run_generate`, `exists_generateFrom`: a command ends in one of these generations;
* `report_tells`: so every report of a command tells what has been done;
* `preview_says_generated`: a document without models, whose files were only to be shown.
-/

namespace SchemaClass

open Outcome FileTree

/-- Where the files of a run go. -/
theorem Build.outputDirectory_of_run {d : Document} {c : Config} {root : Path} {last : Build}
    (h : Pipeline.typeScript.run d c root = .ok last) :
    last.outputDirectory = c.outputPath root := by
  have hcontinues := continues_after .typeScript "ts" (initial d c root) Stage.inOrder
  have hafter : (initial d c root).after .typeScript "ts" Stage.inOrder = last := after_of_run h
  rw [hafter] at hcontinues
  rw [outputDirectory, hcontinues.config, hcontinues.root]
  rfl

/-- The document of a text has been accepted. -/
theorem Document.validate_of_parse {file text : String} {d : Document}
    (h : Document.parse file text = .ok d) : d.validate = .ok () := by
  obtain ⟨envelope, -, hmodels⟩ := bind_eq_ok.mp (mapError_eq_ok.mp h)
  obtain ⟨_, -, hrules⟩ := bind_eq_ok.mp hmodels
  obtain ⟨_, hvalidate, hd⟩ := bind_eq_ok.mp hrules
  cases hd
  exact mapError_eq_ok.mp hvalidate

namespace Command

/-! ## 1. What a report says -/

/-- A number of files in words. -/
def filesText (n : Nat) : String := if n = 1 then "1 file" else toString n ++ " files"

/-- Lines that say what has been generated: the head of a list of files, and its members. -/
def saysGenerated : ReportLine → Bool
  | .heading _ | .added _ => true
  | _ => false

/-- The warnings of a build in order, and an empty line behind them if there are any. -/
def openingLines (b : Build) : List ReportLine :=
  b.warnings.map (fun w => .warning w.text) ++ if b.warnings = [] then [] else [.blank]

/-- The lines for files that are only shown: the path and the text of each of them, and how many
there are. -/
def shownLines (os : List OutputFile) : List ReportLine :=
  os.flatMap (fun o => [.rule o.path.text, .text o.content]) ++
    [.rule "Summary", .text (filesText os.length ++ " would be generated")]

/-- The lines for files that have been written, whose paths are given from the output directory
on. -/
def listedLines (output : Path) (names : List Path) : List ReportLine :=
  .heading ("Generated " ++ filesText names.length ++ " in " ++ output.text) ::
    names.map fun p => .added p.text

/-- **What a report says** of a generation that has led from one tree to another.  `os` are the
files of the build. -/
structure Tells (project : Project) (b : Build) (os : List OutputFile) (t after : FileTree)
    (report : List ReportLine) : Prop where
  /-- Files that are only shown stand in the report. -/
  shown : project.config.dryRun = true → after = t ∧
    (os ≠ [] → report = openingLines b ++ shownLines os)
  /-- But where there are no files, it says that none were generated. -/
  nothing : project.config.dryRun = true → os = [] →
    report = openingLines b ++ listedLines (project.config.outputPath project.root) []
  /-- So files to show are what keeps it from saying that files were generated. -/
  silent : project.config.dryRun = true → ((∀ l ∈ report, saysGenerated l = false) ↔ os ≠ [])
  /-- Files that have been written are listed, each once, and their texts can be read. -/
  listed : project.config.dryRun = false → (∀ o ∈ os, after.read o.path = .ok o.content) ∧
    ∃ names, report = openingLines b ++ listedLines (project.config.outputPath project.root) names ∧
      names.map (project.config.outputPath project.root).join = os.map (·.path) ∧ names.Nodup

/-- A report tells what the generation of a document has done: there is one file for each model. -/
def Reported (project : Project) (d : Document) (t after : FileTree) (report : List ReportLine) :
    Prop :=
  ∃ build batch os, Pipeline.typeScript.run d project.config project.root = .ok build ∧
    build.batch = some batch ∧ batch.outputs = .ok os ∧ os.length = d.models.length ∧
    Tells project build os t after report

theorem counted_file (n : Nat) : counted n "file" = filesText n := by
  rw [counted, filesText]
  split
  · next h =>
    subst h
    rfl
  · rw [String.append_assoc, String.append_assoc]
    rfl

/-! ## 2. What a generation has done -/

section Generation

variable {project : Project} {d : Document} {t after : FileTree} {result : Result}

/-- **A generation that succeeds** has the outputs of a batch, and reports what it has made of
them. -/
theorem exists_outputs_of_generateFrom
    (h : (generateFrom project d : StateM FileTree _) t = (.ok result, after)) :
    ∃ build batch os g, Pipeline.typeScript.run d project.config project.root = .ok build ∧
      build.takeBatch.2 = .ok batch ∧ batch.outputs = .ok os ∧
      (batch.generate (.ofDryRun project.config.dryRun) : StateM FileTree _) t = (.ok g, after) ∧
      result.report = (generateReport build g).lines := by
  rw [generateFrom] at h
  cases hlogged : Pipeline.typeScript.runLogged d project.config project.root with
  | error e =>
    rw [hlogged] at h
    cases h
  | ok logged =>
    obtain ⟨build, log⟩ := logged
    have hrun : Pipeline.typeScript.run d project.config project.root = .ok build :=
      map_eq_ok.mpr ⟨_, hlogged, rfl⟩
    obtain ⟨batch, os, htake, hos⟩ := Document.exists_outputs_of_run hrun
    rw [hlogged] at h
    dsimp only at h
    rw [htake] at h
    dsimp only at h
    generalize hgenerate : (batch.generate (.ofDryRun project.config.dryRun) : StateM FileTree _) t
      = generated at h
    obtain ⟨g, last⟩ := generated
    rw [run_bind hgenerate] at h
    cases g with
    | error e => cases h
    | ok g =>
      cases h
      exact ⟨build, batch, os, g, hrun, htake, hos, hgenerate, rfl⟩

/-- A report is its warnings, and what it says of files. -/
theorem lines_generateReport (b : Build) (g : Generated) : (generateReport b g).lines
    = openingLines b ++ if g.previewed = [] then (generateReport b g).writtenLines
      else (generateReport b g).previewLines := by
  have hempty : (b.warnings.map (·.text)).isEmpty = decide (b.warnings = []) := by
    cases b.warnings <;> rfl
  have hpreviewed : g.previewed.isEmpty = decide (g.previewed = []) := by
    cases g.previewed <;> rfl
  rw [GenerateReport.lines, openingLines]
  simp only [generateReport, hempty, hpreviewed, decide_eq_true_eq, List.map_map]
  rfl

theorem previewLines_generateReport (b : Build) (os : List OutputFile) :
    (generateReport b { previewed := os }).previewLines = shownLines os := by
  rw [GenerateReport.previewLines, counted_file]
  rfl

/-- **Written files are listed by their paths from the output directory on.** -/
theorem writtenLines_generateReport {b : Build} {os : List OutputFile}
    {names : List Path} (hnames : os.map (·.path) = names.map b.outputDirectory.join)
    (hrelative : ∀ p ∈ names, (b.outputDirectory.join p).relativeTo? b.outputDirectory = some p) :
    (generateReport b { written := os.map (·.path) }).writtenLines
      = listedLines b.outputDirectory names := by
  rw [GenerateReport.writtenLines, counted_file, listedLines, hnames]
  simp only [generateReport, List.length_map, List.map_map]
  congr 1
  refine List.map_congr_left fun p hp => ?_
  simp [GenerateReport.shownPath, hrelative p hp]

theorem saysGenerated_openingLines (b : Build) : ∀ l ∈ openingLines b, saysGenerated l = false := by
  intro l hl
  rw [openingLines] at hl
  rcases List.mem_append.mp hl with hl | hl
  · obtain ⟨w, -, rfl⟩ := List.mem_map.mp hl
    rfl
  · split at hl
    · cases hl
    · rw [List.mem_singleton.mp hl]
      rfl

theorem saysGenerated_shownLines (os : List OutputFile) :
    ∀ l ∈ shownLines os, saysGenerated l = false := by
  intro l hl
  simp only [shownLines, List.mem_append, List.mem_flatMap, List.mem_cons, List.not_mem_nil,
    or_false] at hl
  rcases hl with ⟨o, -, rfl | rfl⟩ | rfl | rfl
  all_goals rfl

/-! ## 3. Reports -/

/-- **The report of files that are only shown.** -/
theorem tells_of_preview {build : Build} {batch : Batch} {os : List OutputFile} {g : Generated}
    (hdry : project.config.dryRun = true) (hos : batch.outputs = .ok os)
    (hout : build.outputDirectory = project.config.outputPath project.root)
    (h : (batch.generate .preview : StateM FileTree _) t = (.ok g, after)) :
    Tells project build os t after (generateReport build g).lines := by
  cases (Batch.generate_preview hos t).symm.trans h
  have hshown : os ≠ [] → (generateReport build { previewed := os }).lines
      = openingLines build ++ shownLines os := by
    intro hne
    rw [lines_generateReport, if_neg hne, previewLines_generateReport]
  have hnothing : os = [] → (generateReport build { previewed := os }).lines
      = openingLines build ++ listedLines (project.config.outputPath project.root) [] := by
    rintro rfl
    have hlines : (generateReport build {}).writtenLines
        = listedLines build.outputDirectory [] := by
      rw [GenerateReport.writtenLines, counted_file]
      rfl
    rw [lines_generateReport, if_pos rfl, ← hout, ← hlines]
  refine ⟨fun _ => ⟨rfl, hshown⟩, fun _ => hnothing, fun _ => ⟨?_, fun hne => ?_⟩, ?_⟩
  · intro hsilent hnil
    rw [hnothing hnil, List.forall_mem_append] at hsilent
    cases hsilent.2 _ List.mem_cons_self
  · rw [hshown hne, List.forall_mem_append]
    exact ⟨saysGenerated_openingLines build, saysGenerated_shownLines os⟩
  · intro hpersist
    cases hdry.symm.trans hpersist

/-- **The report of files that have been written.** -/
theorem tells_of_persist {build : Build} {batch : Batch} {os : List OutputFile} {g : Generated}
    (names : List Path) (hpersist : project.config.dryRun = false) (hos : batch.outputs = .ok os)
    (hout : build.outputDirectory = project.config.outputPath project.root)
    (hapart : os.Pairwise fun o o' => o.destination t.here ≠ o'.destination t.here)
    (hnames : os.map (·.path) = names.map build.outputDirectory.join)
    (hrelative : ∀ p ∈ names,
      (build.outputDirectory.join p).relativeTo? build.outputDirectory = some p)
    (h : (batch.generate .persist : StateM FileTree _) t = (.ok g, after)) :
    Tells project build os t after (generateReport build g).lines := by
  generalize hwrite : (writeOutputs os : StateM FileTree _) t = written
  obtain ⟨written, last⟩ := written
  obtain ⟨hresult, rfl⟩ := Prod.mk.inj ((Batch.generate_persist hos hwrite).symm.trans h)
  cases written with
  | error e => cases hresult
  | ok u =>
    cases hresult
    have hnodup : (os.map (·.path)).Nodup := by
      rw [List.Nodup, List.pairwise_map]
      exact hapart.imp fun hne heq => hne (congrArg (Path.destination t.here) heq)
    have hnot : project.config.dryRun ≠ true := by simp [hpersist]
    refine ⟨fun hdry => absurd hdry hnot, fun hdry => absurd hdry hnot,
      fun hdry => absurd hdry hnot, fun _ => ⟨read_writeOutputs hapart hwrite, names, ?_⟩⟩
    rw [lines_generateReport, if_pos rfl, writtenLines_generateReport hnames hrelative, ← hout]
    exact ⟨rfl, hnames.symm, (hnames ▸ hnodup).of_map _⟩

/-- **Every report of a document that has been accepted tells what has been done.** -/
theorem reported_of_generateFrom (hd : d.validate = .ok ())
    (h : (generateFrom project d : StateM FileTree _) t = (.ok result, after)) :
    Reported project d t after result.report := by
  obtain ⟨build, batch, os, g, hrun, htake, hos, hgenerate, hreport⟩ :=
    exists_outputs_of_generateFrom h
  have hwf : d.WellFormed := (Document.validate_decides d).ok_iff.mp hd
  have hbatch : d.batch project.config project.root = .ok batch :=
    bind_eq_ok.mpr ⟨build, hrun, htake⟩
  have hout := Build.outputDirectory_of_run hrun
  have hpaths := Document.paths_of_outputs hwf hbatch hos
  have hlength : os.length = d.models.length := by simpa using congrArg List.length hpaths
  refine ⟨build, batch, os, hrun, Build.batch_of_takeBatch htake, hos, hlength, ?_⟩
  rw [hreport]
  cases hdry : project.config.dryRun with
  | true =>
    rw [hdry] at hgenerate
    exact tells_of_preview hdry hos hout hgenerate
  | false =>
    rw [hdry] at hgenerate
    have hapart := Document.destinations_outputs hwf hbatch hos t.here
    refine tells_of_persist (d.models.map fun m =>
      (project.config.layout.location ⟨[]⟩ "ts" m.name).path) hdry hos hout hapart ?_ ?_ hgenerate
    · rw [hpaths, hout, List.map_map]
      exact List.map_congr_left fun m _ => Layout.location_eq_join _ _ "ts" m.name
    · intro p hp
      obtain ⟨m, hm, rfl⟩ := List.mem_map.mp hp
      rw [hout, ← Layout.location_eq_join]
      exact Layout.relativeTo?_location (Document.isPlain_kebab hwf m hm) (by decide) (by decide)

end Generation

/-! ## 4. The command line -/

/-- Generation by command: a project and a document are loaded, which leaves the disk as it is. -/
theorem run_generate (here : Path) (o : GenerateOptions) (t : FileTree) :
    (generate here o : StateM FileTree _) t =
      match ((Project.load (o.config.getD defaultConfig) o.input : StateM FileTree _) t).1 with
      | .error e => (.error e, t)
      | .ok project =>
        let p : Project := ⟨override here o project.config, project.root⟩
        match ((Document.load (p.config.inputPath p.root) : StateM FileTree _) t).1 with
        | .error e => (.error (.schema e), t)
        | .ok d => (generateFrom p d : StateM FileTree _) t := by
  rw [generate, (reading_load (o.config.getD defaultConfig) o.input).run_bind t]
  cases ((Project.load (o.config.getD defaultConfig) o.input : StateM FileTree _) t).1 with
  | error e => rfl
  | ok project =>
    have hreads : Reading
        (Document.load ((override here o project.config).inputPath project.root)
          : StateM FileTree _) := reading_loadWith Document.parse _
    dsimp only
    rw [hreads.run_bind t]
    cases ((Document.load ((override here o project.config).inputPath project.root)
        : StateM FileTree _) t).1 <;> rfl

/-- **A command that succeeds generates a document that has been accepted**, with the settings of
the command line. -/
theorem exists_generateFrom {here : Path} {o : GenerateOptions} {t after : FileTree}
    {result : Result} (h : (generate here o : StateM FileTree _) t = (.ok result, after)) :
    ∃ c root d, d.validate = .ok () ∧
      (generateFrom ⟨override here o c, root⟩ d : StateM FileTree _) t = (.ok result, after) := by
  rw [run_generate] at h
  split at h
  · cases h
  · next project _ =>
    dsimp only at h
    split at h
    · cases h
    · next d hdocument =>
      obtain ⟨text, -, hparse⟩ := loadWith_ok_iff.mp hdocument
      exact ⟨project.config, project.root, d, Document.validate_of_parse hparse, h⟩

/-- **A report tells what has been done**, for every generation of a document that has been accepted
and for every command that succeeds: all files are shown, or they are listed as they have been
written, behind the warnings of the run.  Only where there are no files to show does it say that
none were generated. -/
theorem report_tells (t after : FileTree) (result : Result) :
    (∀ (project : Project) (d : Document), d.validate = .ok () →
      (generateFrom project d : StateM FileTree _) t = (.ok result, after) →
      Reported project d t after result.report) ∧
    ∀ (here : Path) (o : GenerateOptions),
      (generate here o : StateM FileTree _) t = (.ok result, after) →
      ∃ c root d, d.validate = .ok () ∧
        Reported ⟨override here o c, root⟩ d t after result.report := by
  refine ⟨fun project d hd h => reported_of_generateFrom hd h, ?_⟩
  intro here o h
  obtain ⟨c, root, d, hd, hfrom⟩ := exists_generateFrom h
  exact ⟨c, root, d, hd, reported_of_generateFrom hd hfrom⟩

/-- A directory with a configuration and a document. -/
def schemaTree (document : String) : FileTree :=
  .ofFiles [] [("kiln.toml", some "[generator]\ninput = 'schema.json'\n"),
    ("schema.json", some document)]

/-- The settings that are read there. -/
def schemaProject : Project := ⟨{ input := ⟨"schema.json"⟩ }, ⟨"."⟩⟩

/-- The settings of a preview there. -/
def schemaPreview : Project := ⟨{ input := ⟨"schema.json"⟩, dryRun := true }, ⟨"."⟩⟩

/-- A preview in such a directory. -/
theorem run_generate_schemaTree (here : Path) {document : String} {d : Document}
    (h : Document.parse "./schema.json" document = .ok d) :
    (generate here { dryRun := true } : StateM FileTree _) (schemaTree document)
      = (generateFrom schemaPreview d : StateM FileTree _) (schemaTree document) := by
  have hread : ∀ p place text, p.isAbsolute = false →
      .char '\x00' ∉ p.chars ∧ p.chars ≠ [] ∧ size p.chars < pathLimit →
      p.segments.foldlM (schemaTree document).enter [] = .ok place →
      (schemaTree document).text? place = some text → (schemaTree document).read p = .ok text := by
    intro p place text hrelative hfollowed hfold htext
    refine read_eq_ok_iff.mpr
      ⟨place, walk_eq_ok_iff.mpr ⟨checkPath_eq_ok_iff.mpr hfollowed, ?_⟩, htext⟩
    rw [start, hrelative]
    exact hfold
  have hproject : ((Project.load defaultConfig none : StateM FileTree _) (schemaTree document)).1
      = .ok ⟨{ input := ⟨"schema.json"⟩ }, ⟨"."⟩⟩ :=
    load_ok_iff.mpr ⟨{ input := ⟨"schema.json"⟩ }, _,
      hread _ ["kiln.toml"] _ rfl (by decide +kernel) rfl rfl, by decide +kernel, by decide +kernel⟩
  have hdocument : ((Document.load (schemaPreview.config.inputPath schemaPreview.root)
      : StateM FileTree _) (schemaTree document)).1 = .ok d := by
    have hpath : schemaPreview.config.inputPath schemaPreview.root = ⟨"./schema.json"⟩ := by
      decide +kernel
    rw [hpath]
    exact loadWith_ok_iff.mpr
      ⟨document, hread _ ["schema.json"] _ rfl (by decide +kernel) rfl rfl, h⟩
  have hsettings : override here { dryRun := true } { input := ⟨"schema.json"⟩ }
      = schemaPreview.config := rfl
  rw [run_generate]
  dsimp only [Option.getD_none]
  rw [hproject]
  dsimp only
  rw [hsettings, show (⟨"."⟩ : Path) = schemaPreview.root from rfl, hdocument]

/-- A document without models. -/
def emptyText : String := "\x7b\"models\":[]\x7d"

/-- One model without fields. -/
def inkText : String := "\x7b\"models\":[\x7b\"name\":\"Ink\"\x7d]\x7d"

/-- Two models without fields. -/
def inks : Document := ⟨[⟨"Ink", []⟩, ⟨"InkBottle", []⟩]⟩

theorem report_tells_ink :
    (∃ result, (⟨[]⟩ : Document).validate = .ok () ∧
      (generateFrom schemaProject ⟨[]⟩ : StateM FileTree _) (schemaTree emptyText)
        = (.ok result, schemaTree emptyText) ∧
      Reported schemaProject ⟨[]⟩ (schemaTree emptyText) (schemaTree emptyText) result.report) ∧
    (∃ result, (generate ⟨"/"⟩ { dryRun := true } : StateM FileTree _) (schemaTree inkText)
        = (.ok result, schemaTree inkText) ∧
      ∃ c root d, d.validate = .ok () ∧ Reported ⟨override ⟨"/"⟩ { dryRun := true } c, root⟩ d
        (schemaTree inkText) (schemaTree inkText) result.report) ∧
    ∃ result after, inks.validate = .ok () ∧
      (generateFrom schemaProject inks : StateM FileTree _) (schemaTree emptyText)
        = (.ok result, after) ∧
      Reported schemaProject inks (schemaTree emptyText) after result.report ∧
      result.report = [.warning "warning: model 'Ink' has no fields (at Ink)",
        .warning "warning: model 'InkBottle' has no fields (at InkBottle)", .blank,
        .heading "Generated 2 files in ./generated", .added "ink.ts", .added "ink-bottle.ts"] ∧
      (after.read ⟨"./generated/ink.ts"⟩).isOk = true ∧
      (after.read ⟨"./generated/ink-bottle.ts"⟩).isOk = true := by
  refine ⟨?_, ?_, ?_⟩
  · have hrun : ∃ result, (generateFrom schemaProject ⟨[]⟩ : StateM FileTree _)
        (schemaTree emptyText) = (.ok result, schemaTree emptyText) := ⟨_, rfl⟩
    obtain ⟨result, hrun⟩ := hrun
    obtain ⟨hreported, -⟩ := report_tells (schemaTree emptyText) (schemaTree emptyText) result
    exact ⟨result, rfl, hrun, hreported _ _ rfl hrun⟩
  · have hrun : ∃ result, (generate ⟨"/"⟩ { dryRun := true } : StateM FileTree _)
        (schemaTree inkText) = (.ok result, schemaTree inkText) := by
      rw [run_generate_schemaTree ⟨"/"⟩ (d := ⟨[⟨"Ink", []⟩]⟩) (by decide +kernel)]
      exact ⟨_, rfl⟩
    obtain ⟨result, hrun⟩ := hrun
    obtain ⟨-, hreported⟩ := report_tells (schemaTree inkText) (schemaTree inkText) result
    exact ⟨result, hrun, hreported _ _ hrun⟩
  · have hreport : ((generateFrom schemaProject inks : StateM FileTree _)
        (schemaTree emptyText)).1.toOption.map (·.report)
          = some [.warning "warning: model 'Ink' has no fields (at Ink)",
            .warning "warning: model 'InkBottle' has no fields (at InkBottle)", .blank,
            .heading "Generated 2 files in ./generated", .added "ink.ts",
            .added "ink-bottle.ts"] := by decide +kernel
    have hread : ∀ p ∈ [(⟨"./generated/ink.ts"⟩ : Path), ⟨"./generated/ink-bottle.ts"⟩],
        (((generateFrom schemaProject inks : StateM FileTree _)
          (schemaTree emptyText)).2.read p).isOk = true := by decide +kernel
    generalize hrun : (generateFrom schemaProject inks : StateM FileTree _) (schemaTree emptyText)
      = ended at hreport hread
    obtain ⟨result, after⟩ := ended
    cases result with
    | error e => cases hreport
    | ok result =>
      obtain ⟨hreported, -⟩ := report_tells (schemaTree emptyText) after result
      have hink : (after.read ⟨"./generated/ink.ts"⟩).isOk = true := hread _ (by simp)
      have hbottle : (after.read ⟨"./generated/ink-bottle.ts"⟩).isOk = true := hread _ (by simp)
      exact ⟨result, after, rfl, rfl, hreported _ _ rfl hrun, Option.some.inj hreport, hink,
        hbottle⟩

/-- **A preview without files says that files were generated.** -/
theorem preview_says_generated :
    ∃ outcome, (run ⟨"/"⟩ "off" ["generate", "--dry-run"] : StateM FileTree _)
        (schemaTree emptyText) = (outcome, schemaTree emptyText) ∧
      outcome.exitCode = 0 ∧ outcome.output = "Generated 0 files in ./generated:\n" := by
  have hwords : Request.ofWords false ["generate", "--dry-run"]
      = .ok (false, .generate { dryRun := true }) := ofWords_generate none
  obtain ⟨filter, hfilter⟩ : ∃ filter, LogFilter.ofText "off" = .ok filter := ⟨_, rfl⟩
  obtain ⟨result, hresult, hreport⟩ : ∃ result,
      (generate ⟨"/"⟩ { dryRun := true } : StateM FileTree _) (schemaTree emptyText)
        = (.ok result, schemaTree emptyText) ∧
      result.report = [.heading "Generated 0 files in ./generated"] := by
    rw [run_generate_schemaTree ⟨"/"⟩ (d := ⟨[]⟩) (by decide +kernel)]
    exact ⟨_, rfl, by decide +kernel⟩
  have hperform : (run ⟨"/"⟩ "off" ["generate", "--dry-run"] : StateM FileTree _)
      = perform ⟨"/"⟩ filter (.generate { dryRun := true }) := by
    rw [run, hwords, hfilter]
    rfl
  rw [hperform, perform, run_bind hresult]
  refine ⟨_, rfl, rfl, ?_⟩
  rw [Outcome.output, hreport]
  decide +kernel

end Command

end SchemaClass
