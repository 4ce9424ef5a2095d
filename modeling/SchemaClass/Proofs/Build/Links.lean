import SchemaClass.Proofs.Build.Run
/-!
# Links between generated files

A class that is imported because of a relation has to be where the import says.  Both ends are
decided apart from each other: the symbol and the specifier in the file that imports, the class and
the path of the file that is imported.  Here they are brought together.

* `file?_built`: every model is found by its name;
* `leads_specifier`: a specifier leads to a file that declares the class;
* `links_of_validate`: every relation to another model is imported so, and nothing is imported that
  no other model, enum or decorator accounts for.
-/

namespace SchemaClass

open SchemaClass.Path

/-- An origin in a file at `source` leads to the file of an entity, and that file declares the class
of the entity. -/
def Batch.Leads (b : Batch) (source : Path) (origin target : String) : Prop :=
  ∃ file path text, b.file? target = some file ∧ file.path? = some path ∧
    followed source origin = path.withoutExtension ∧
    file.render .classFile = .ok text ∧ ClassFile.Declares text (Naming.pascal target)

namespace Document

variable {d : Document} {c : Config}

/-! ## 1. Looking up files -/

/-- **Every model is found by its name.** -/
theorem file?_built (root : Path) : ∀ {ms : List Model}, (ms.map (·.name)).Nodup → ∀ m ∈ ms,
    (⟨ms.map (·.file c root)⟩ : Batch).file? m.name = some (m.file c root)
  | [], _, _, hm => absurd hm List.not_mem_nil
  | n :: ms, hnd, m, hm => by
    obtain ⟨hn, hms⟩ := List.nodup_cons.mp hnd
    rw [Batch.file?, List.map_cons, List.find?_cons]
    rcases List.mem_cons.mp hm with rfl | hm
    · have hname : ((m.file c root).entity.name == m.name) = true := beq_self_eq_true _
      rw [hname]
    · have hname : ((n.file c root).entity.name == m.name) = false := by
        rw [beq_eq_false_iff_ne]
        intro heq
        have hname : n.name = m.name := heq
        exact hn (List.mem_map.mpr ⟨m, hm, hname.symm⟩)
      rw [hname]
      exact file?_built root hms m hm

/-! ## 2. One link -/

theorem kebab_ne {m n : Model} (hd : d.WellFormed) (hm : m ∈ d.models) (hn : n ∈ d.models)
    (hne : m.name ≠ n.name) : Naming.kebab m.name ≠ Naming.kebab n.name := by
  intro hkebab
  have hmn : m = n := List.inj_on_of_nodup_map hd.files_nodup hm hn hkebab
  exact hne (hmn ▸ rfl)

/-- **The specifier of a model leads to its file**, from the file of any other model. -/
theorem leads_specifier (hd : d.WellFormed) (root : Path) (henum : IsModuleName c.enumModule)
    (hdec : IsModuleName c.decoratorModule) {m n : Model} (hm : m ∈ d.models) (hn : n ∈ d.models)
    (hne : m.name ≠ n.name) :
    (⟨d.models.map (·.file c root)⟩ : Batch).Leads (c.location root m.name).path
      ((⟨root⟩ : Resolver).specifier (c.location root m.name).path (c.location root n.name).path)
      n.name :=
  ⟨n.file c root, (c.location root n.name).path, (n.file c root).text,
    file?_built root hd.models_nodup n hn, rfl,
    Layout.followed_specifier (isPlain_kebab hd m hm) (isPlain_kebab hd n hn) (by decide)
      (by decide) ⟨root⟩ (kebab_ne hd hm hn hne),
    n.render_file root henum hdec, ClassFile.declares_text _⟩

/-! ## 3. All links -/

/-- What a model accounts for among the imports of its file: another model that a field relates to,
an enum of a field, or a decorator. -/
def Accounts (b : Batch) (c : Config) (m : Model) (source : Path) (symbol origin : String) :
    Prop :=
  (∃ f ∈ m.fields, f.isRelation = true ∧ ∃ target, f.baseType = some target ∧ target ≠ m.name ∧
    symbol = Naming.pascal target ∧ b.Leads source origin target) ∨
  (∃ f ∈ m.fields, f.isRelation = false ∧ f.isEnum = true ∧ f.baseType = some symbol ∧
    origin = c.enumModule) ∨
  (origin = c.decoratorModule ∧
    (symbol = entityTagName ∨ symbol = fieldTagName ∧ c.swagger = true ∧ m.fields ≠ []))

theorem accounts_of_mem (hd : d.WellFormed) (root : Path) (henum : IsModuleName c.enumModule)
    (hdec : IsModuleName c.decoratorModule) {m : Model} (hm : m ∈ d.models)
    {symbol origin : String}
    (h : (symbol, origin) ∈ m.directImports c.decoration c.enumModule fun t =>
      (⟨root⟩ : Resolver).specifier (c.location root m.name).path (c.location root t).path) :
    Accounts ⟨d.models.map (·.file c root)⟩ c m (c.location root m.name).path symbol origin := by
  rcases List.mem_append.mp h with h | h
  · obtain ⟨t, ht, heq⟩ := List.mem_map.mp h
    cases heq
    obtain ⟨hne, f, hf, hrel, hb⟩ := Model.mem_targets.mp ht
    obtain ⟨n, hn, rfl⟩ := (hd.fields_sound m hm f hf).target t hb hrel
    exact Or.inl ⟨f, hf, hrel, n.name, hb, hne, rfl,
      leads_specifier hd root henum hdec hm hn hne.symm⟩
  · exact Or.inr (Model.mem_moduleImports.mp h)

/-- **Every link holds**, in the batch of any document that has been accepted.  A relation to
another model is imported from its file, and every import is accounted for, so that none comes from
a relation of a model to itself. -/
theorem links_of_validate (root : Path) (hd : d.validate = .ok ())
    (henum : IsModuleName c.enumModule) (hdec : IsModuleName c.decoratorModule) :
    ∃ build batch, Pipeline.typeScript.run d c root = .ok build ∧ build.batch = some batch ∧
      ∀ m ∈ d.models, ∃ file source, batch.file? m.name = some file ∧ file.path? = some source ∧
        (∀ f ∈ m.fields, f.isRelation = true → ∀ target, f.baseType = some target →
          target ≠ m.name → ∃ r ∈ file.imports.records, Naming.pascal target ∈ r.symbols ∧
            batch.Leads source r.origin target) ∧
        ∀ r ∈ file.imports.records, ∀ symbol ∈ r.symbols,
          Accounts batch c m source symbol r.origin := by
  have hwf : d.WellFormed := (validate_decides d).ok_iff.mp hd
  refine ⟨d.built c root, ⟨d.models.map (·.file c root)⟩, run_eq_built hwf root henum hdec, rfl,
    fun m hm => ⟨m.file c root, (c.location root m.name).path,
      file?_built root hwf.models_nodup m hm, rfl, ?_, ?_⟩⟩
  · intro f hf hrel target hb hne
    obtain ⟨n, hn, rfl⟩ := (hwf.fields_sound m hm f hf).target target hb hrel
    have htarget : n.name ∈ m.targets := Model.mem_targets.mpr ⟨hne, f, hf, hrel, hb⟩
    have hpair := List.mem_append_left (m.moduleImports c.decoration c.enumModule)
      (List.mem_map_of_mem (f := fun t => (Naming.pascal t,
        (⟨root⟩ : Resolver).specifier (c.location root m.name).path (c.location root t).path))
        htarget)
    obtain ⟨r, hr, horigin, hsymbol⟩ := ImportList.exists_record_iff.mpr hpair
    refine ⟨r, hr, hsymbol, ?_⟩
    rw [horigin]
    exact leads_specifier hwf root henum hdec hm hn hne.symm
  · intro r hr symbol hsymbol
    have hpair := ImportList.exists_record_iff.mp ⟨r, hr, rfl, hsymbol⟩
    exact accounts_of_mem hwf root henum hdec hm hpair

theorem links_of_validate_blog :
    blog.validate = .ok () ∧ IsModuleName blogConfig.enumModule ∧
      IsModuleName blogConfig.decoratorModule ∧
      ∃ build batch, Pipeline.typeScript.run blog blogConfig ⟨"project"⟩ = .ok build ∧
        build.batch = some batch ∧ ∃ file source, batch.file? "User" = some file ∧
          file.path? = some source ∧ ∃ r ∈ file.imports.records, "Post" ∈ r.symbols ∧
            batch.Leads source r.origin "Post" := by
  have henum : IsModuleName blogConfig.enumModule := by decide
  have hdec : IsModuleName blogConfig.decoratorModule := by decide
  obtain ⟨build, batch, hrun, hbatch, hlinks⟩ :=
    links_of_validate ⟨"project"⟩ validate_blog henum hdec
  obtain ⟨file, source, hfile, hsource, hrelations, -⟩ := hlinks _ List.mem_cons_self
  obtain ⟨r, hr, hsymbol, hleads⟩ :=
    hrelations _ List.mem_cons_self rfl "Post" rfl (by decide)
  have hpascal : Naming.pascal "Post" = "Post" := by decide
  exact ⟨validate_blog, henum, hdec, build, batch, hrun, hbatch, file, source, hfile, hsource,
    r, hr, hpascal ▸ hsymbol, hleads⟩

end Document

end SchemaClass
