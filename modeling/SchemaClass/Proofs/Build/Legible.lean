import SchemaClass.Proofs.Build.Links
import SchemaClass.Proofs.Build.Models
import SchemaClass.Proofs.ClassFile.Content
import SchemaClass.Proofs.Naming.ClassName
/-!
# Every generated file can be read back

The names in a document that has been accepted are identifiers, and the specifiers between its files
are made of such names.  Only the types of fields and the names of modules come into the files as
they are.  If none of them has a line break, neither has any part of a file, and so the text of each
file tells all that is in it.

* `isLine_statement`, `isLine_decorator`: statements and decorators of parts that fit on a line;
* `Document.Printable`: what is asked of a document and a configuration;
* `isLine_directImports`, `printable_file`: the parts of each generated file fit on lines;
* `content_of_batch`: the files of a batch are read back, and no two of them can be taken for one
  another;
* `same_text_torn`: what a line break in a type can do.
-/

namespace SchemaClass

open Text Source Naming

/-! ## 1. Parts of a file -/

theorem isLine_of_continues {s : String} (h : ∀ c ∈ s.toList, ContinuesIdentifier c) :
    IsLine s := by
  intro hbreak
  have hcontinues := h _ hbreak
  revert hcontinues
  unfold ContinuesIdentifier
  decide

theorem isLine_identifier {s : String} (h : SpelledAsIdentifier s) : IsLine s :=
  isLine_of_continues (continues_of_spelled h)

theorem isLabel_of_spelled {s : String} (h : SpelledAsIdentifier s) : Content.IsLabel s := by
  refine ⟨fun hcolon => ?_, ?_⟩
  · have hcontinues := continues_of_spelled h _ hcolon
    revert hcontinues
    unfold ContinuesIdentifier
    decide
  · obtain ⟨c, cs, hs, hc, -⟩ := h
    rw [Content.isDecorator, hs, beq_eq_false_iff_ne]
    intro hat
    rw [Option.some.inj hat] at hc
    revert hc
    unfold StartsIdentifier
    decide

theorem isLine_pascal {s : String} (h : SpelledAsIdentifier s) : IsLine (pascal s) :=
  isLine_of_continues (continues_pascal h)

theorem isLine_kebab {s : String} (h : SpelledAsIdentifier s) : IsLine (kebab s) := by
  intro hbreak
  rcases mem_kebab hbreak with hbreak | ⟨d, hd, -, hlower⟩
  · cases hbreak
  · have hcontinues := continues_of_spelled h d hd
    rw [LetterCase.lower_ascii (isAscii_of_continues hcontinues), List.mem_singleton] at hlower
    refine forall_ascii (P := fun c => ContinuesIdentifier c → '\n' ≠ c.toLower) ?_
      (isAscii_of_continues hcontinues) hcontinues hlower
    unfold ContinuesIdentifier
    decide

theorem isLine_wayText (n : Nat) {names : List String} (h : ∀ s ∈ names, IsLine s) :
    IsLine (Path.wayText n names) := by
  have hjoined : IsLine ("/".intercalate (List.replicate n ".." ++ names)) := by
    refine isLine_intercalate (by decide) fun s hs => ?_
    rcases List.mem_append.mp hs with hs | hs
    · rw [List.eq_of_mem_replicate hs]
      decide
    · exact h s hs
  rw [Path.wayText]
  split
  · exact isLine_append.mpr ⟨by decide, hjoined⟩
  · exact hjoined

/-- What leads to a file is a line if the name of the file is. -/
theorem isLine_way {l : Layout} {k : String} (h : IsLine k) :
    ∀ s ∈ l.folders k ++ [l.moduleName k "ts"], IsLine s := by
  have hstem : IsLine (l.stem k) := by
    cases l with
    | flat => exact h
    | nested => exact isLine_append.mpr ⟨h, by decide⟩
  intro s hs
  rcases List.mem_append.mp hs with hs | hs
  · exact (Layout.mem_folders hs).1 ▸ h
  · rw [List.mem_singleton.mp hs, Layout.moduleName_eq l k (by decide)]
    split
    · exact hstem
    · exact isLine_append.mpr ⟨isLine_append.mpr ⟨hstem, by decide⟩, by decide⟩

/-- **A statement is a line** if its parts are. -/
theorem isLine_statement {r : ImportRecord} (horigin : IsLine r.origin)
    (hsymbols : ∀ s ∈ r.symbols, IsLine s) : IsLine r.statement := by
  have hjoined : IsLine (", ".intercalate r.symbols) := isLine_intercalate (by decide) hsymbols
  rw [ImportRecord.statement]
  split <;> simp only [isLine_append]
  · exact ⟨by decide, ⟨by decide, horigin⟩, by decide⟩
  · exact ⟨⟨⟨by decide, hjoined⟩, by decide⟩, ⟨by decide, horigin⟩, by decide⟩

theorem mem_escape {c : Char} : ∀ {text : List Char}, c ∈ escape text → c = '\\' ∨ c ∈ text
  | [], h => absurd h List.not_mem_nil
  | d :: text, h => by
    rw [escape] at h
    split at h
    · rcases List.mem_cons.mp h with rfl | h
      · exact Or.inl rfl
      · rcases List.mem_cons.mp h with rfl | h
        · exact Or.inr List.mem_cons_self
        · exact (mem_escape h).imp_right (List.mem_cons_of_mem d)
    · rcases List.mem_cons.mp h with rfl | h
      · exact Or.inr List.mem_cons_self
      · exact (mem_escape h).imp_right (List.mem_cons_of_mem d)

theorem isLine_literal {s : String} (h : IsLine s) : IsLine (literal s) := by
  have hescape : IsLine (String.ofList (escape s.toList)) := by
    rw [IsLine, String.toList_ofList]
    intro hbreak
    rcases mem_escape hbreak with hbreak | hbreak
    · cases hbreak
    · exact h hbreak
  simp only [literal, isLine_append]
  exact ⟨⟨by decide, hescape⟩, by decide⟩

theorem isLine_object {members : List (String × TagValue)}
    (h : ∀ m ∈ members, IsLine m.1 ∧ IsLine (valueText m.2)) :
    IsLine (argumentText (.object members)) := by
  have hjoined : IsLine (", ".intercalate (members.map memberText)) := by
    refine isLine_intercalate (by decide) fun s hs => ?_
    obtain ⟨m, hm, rfl⟩ := List.mem_map.mp hs
    simp only [memberText, isLine_append]
    exact ⟨⟨(h m hm).1, by decide⟩, (h m hm).2⟩
  cases members with
  | nil => decide
  | cons m members =>
    simp only [argumentText, isLine_append]
    exact ⟨⟨by decide, hjoined⟩, by decide⟩

/-- **A decorator is a line** if its parts are. -/
theorem isLine_decorator {t : Tag} (hname : IsLine t.name)
    (harguments : ∀ a ∈ t.arguments, IsLine (argumentText a)) :
    IsLine (Decorator.ofTag t).text := by
  have hjoined : IsLine (", ".intercalate (t.arguments.map argumentText)) :=
    isLine_intercalate (by decide) (List.forall_mem_map.mpr harguments)
  simp only [Decorator.text, Decorator.ofTag, isLine_append]
  exact ⟨⟨⟨⟨by decide, hname⟩, by decide⟩, hjoined⟩, by decide⟩

/-! ## 2. Generated files -/

/-- A document and a configuration whose types and modules have no line breaks, and that can be
generated. -/
structure Document.Printable (d : Document) (c : Config) : Prop where
  accepted : d.validate = .ok ()
  types : ∀ m ∈ d.models, ∀ f ∈ m.fields, ∀ base, f.baseType = some base → IsLine base
  enumModule : IsModuleName c.enumModule ∧ IsLine c.enumModule
  decoratorModule : IsModuleName c.decoratorModule ∧ IsLine c.decoratorModule

namespace Field

variable {d : Document} {f : Field} {base : String}

theorem isLine_elementType (hf : f.WellFormed d) (hb : f.baseType = some base) (h : IsLine base) :
    IsLine (f.elementType .typeScript base) := by
  rw [elementType]
  split
  · next s _ => cases s <;> decide
  · split
    · next hrel => exact isLine_pascal (hf.type_spelled base hb (Or.inr hrel))
    · exact h

theorem isLine_type (hf : f.WellFormed d) (h : ∀ base, f.baseType = some base → IsLine base)
    (decoration : Decoration) : IsLine (f.converted .typeScript decoration).type := by
  obtain ⟨base, hb⟩ := hf.typed
  have helement := isLine_elementType hf hb (h base hb)
  rw [converted, hb]
  dsimp only [Option.getD_some]
  rw [targetType]
  split
  · exact isLine_append.mpr ⟨helement, by decide⟩
  · exact helement

theorem isLine_documentation (hf : f.WellFormed d) (hb : f.baseType = some base) :
    ∀ m ∈ f.documentation .typeScript base, IsLine m.1 ∧ IsLine (valueText m.2) := by
  have hmark : ∀ m ∈ f.listMark, IsLine m.1 ∧ IsLine (valueText m.2) := by
    rw [listMark]
    split
    · decide
    · exact nofun
  -- the type is that of a scalar, a relation or an enum, and otherwise nothing is said of it
  rw [documentation]
  split
  · next s _ =>
    refine List.forall_mem_cons.mpr ⟨⟨(by decide : IsLine "type"), ?_⟩, hmark⟩
    cases s <;> decide
  · refine List.forall_mem_append.mpr ⟨hmark, ?_⟩
    split
    · next hrel =>
      rw [List.forall_mem_singleton, valueText]
      have hpascal := isLine_pascal (hf.type_spelled base hb (Or.inr hrel))
      exact ⟨(by decide : IsLine "type"), isLine_append.mpr ⟨by decide, hpascal⟩⟩
    · split
      · next henum =>
        have hbase := isLine_identifier (hf.type_spelled base hb (Or.inl henum))
        rw [List.forall_mem_cons, List.forall_mem_singleton]
        exact ⟨⟨(by decide : IsLine "enum"), hbase⟩, (by decide : IsLine "enumName"),
          isLine_literal hbase⟩
      · exact nofun

theorem isLine_tags (hf : f.WellFormed d) (decoration : Decoration) :
    ∀ t ∈ (f.converted .typeScript decoration).tags, IsLine (Decorator.ofTag t).text := by
  obtain ⟨base, hb⟩ := hf.typed
  rw [converted, hb]
  dsimp only [Option.getD_some]
  rw [tags]
  split
  · rw [List.forall_mem_singleton]
    refine isLine_decorator (by decide : IsLine fieldTagName) ?_
    rw [List.forall_mem_singleton]
    exact isLine_object (isLine_documentation hf hb)
  · exact fun t ht => absurd ht List.not_mem_nil

end Field

namespace Model

variable {d : Document} {c : Config} {m : Model} (h : d.Printable c) (hm : m ∈ d.models)

include h hm

/-- What a generated file imports, and from where. -/
theorem isLine_directImports (root : Path) :
    ∀ p ∈ m.directImports c.decoration c.enumModule (fun t =>
      (⟨root⟩ : Path.Resolver).specifier (c.location root m.name).path (c.location root t).path),
      IsLine p.1 ∧ IsLine p.2 := by
  have hwf : d.WellFormed := (Document.validate_decides d).ok_iff.mp h.accepted
  rw [directImports]
  refine List.forall_mem_append.mpr ⟨List.forall_mem_map.mpr fun t ht => ?_, ?_⟩
  · obtain ⟨hne, f, hf, hrel, hb⟩ := mem_targets.mp ht
    obtain ⟨n, hn, rfl⟩ := (hwf.fields_sound m hm f hf).target t hb hrel
    have hspelled := (hwf.names_usable n hn).2
    refine ⟨isLine_pascal hspelled, ?_⟩
    rw [Config.location, Config.location, Layout.specifier_placed (Document.isPlain_kebab hwf m hm)
      (Document.isPlain_kebab hwf n hn) (by decide) (by decide) ⟨root⟩
      (Document.kebab_ne hwf hm hn hne.symm)]
    exact isLine_wayText _ (isLine_way (isLine_kebab hspelled))
  · rintro ⟨symbol, origin⟩ hp
    rcases mem_moduleImports.mp hp with ⟨f, hf, -, henum, hb, rfl⟩ | ⟨rfl, hsymbol⟩
    · have hspelled := (hwf.fields_sound m hm f hf).type_spelled symbol hb (Or.inl henum)
      exact ⟨isLine_identifier hspelled, h.enumModule.2⟩
    · refine ⟨?_, h.decoratorModule.2⟩
      rcases hsymbol with rfl | ⟨rfl, -⟩
      · exact (by decide : IsLine entityTagName)
      · exact (by decide : IsLine fieldTagName)

/-- **The parts of a generated file fit on lines.** -/
theorem printable_file (root : Path) : (m.file c root).Printable := by
  have hwf : d.WellFormed := (Document.validate_decides d).ok_iff.mp h.accepted
  have hspelled := (hwf.names_usable m hm).2
  constructor
  · exact m.records_file_ne_nil root
  · intro r hr
    have himports := isLine_directImports h hm root
    obtain ⟨p, hp, horigin⟩ := ImportList.exists_pair_of_mem_records hr
    refine isLine_statement (horigin ▸ (himports p hp).2) fun s hs => ?_
    exact (himports _ (ImportList.exists_record_iff.mp ⟨r, hr, rfl, hs⟩)).1
  · refine List.forall_mem_singleton.mpr (isLine_decorator (by decide : IsLine entityTagName) ?_)
    exact List.forall_mem_singleton.mpr (isLine_pascal hspelled)
  · exact isLine_pascal hspelled
  · refine List.forall_mem_map.mpr fun f hf => ?_
    have hname := (hwf.fields_sound m hm f hf).name_spelled
    exact ⟨isLabel_of_spelled hname, isLine_identifier hname⟩
  · exact List.forall_mem_map.mpr fun f hf =>
      Field.isLine_type (hwf.fields_sound m hm f hf) (h.types m hm f hf) c.decoration
  · exact List.forall_mem_map.mpr fun f hf =>
      Field.isLine_tags (hwf.fields_sound m hm f hf) c.decoration

end Model

/-! ## 3. Batches -/

namespace Document

variable {d : Document} {c : Config}

/-- Each file of a printable document is read back. -/
theorem Printable.read_render (h : d.Printable c) {m : Model} (hm : m ∈ d.models) (root : Path) :
    ∃ text, (m.file c root).render .classFile = .ok text ∧
      Content.read text = some (m.file c root).content :=
  ⟨(m.file c root).text, m.render_file root h.enumModule.1 h.decoratorModule.1,
    ClassFile.read_text (Model.printable_file h hm root)⟩

/-- **The text of a file tells its content.**  There is a file for each model, in order, it has all
that the model has, and what is read off its text is just that.  So files that differ in anything do
not have one text, be they of one batch or of two. -/
theorem content_of_batch (d : Document) (c : Config) (root : Path) (h : d.Printable c) :
    ∃ b, d.batch c root = .ok b ∧ b.files.length = d.models.length ∧
      (∀ (i : Nat) (m : Model), d.models[i]? = some m → ∃ f text, b.files[i]? = some f ∧
        f.Carries c.decoration m ∧ f.render .classFile = .ok text ∧
        Content.read text = some f.content) ∧
      ∀ (d' : Document) (c' : Config) (root' : Path) (b' : Batch), d'.Printable c' →
        d'.batch c' root' = .ok b' → ∀ f ∈ b.files, ∀ g ∈ b'.files,
          f.render .classFile = g.render .classFile → f.content = g.content := by
  have hwf : d.WellFormed := (validate_decides d).ok_iff.mp h.accepted
  refine ⟨⟨d.models.map (·.file c root)⟩,
    batch_of_validate root h.accepted h.enumModule.1 h.decoratorModule.1, List.length_map .., ?_, ?_⟩
  · intro i m hi
    have hm : m ∈ d.models := List.mem_of_getElem? hi
    obtain ⟨text, hrender, hread⟩ := h.read_render hm root
    have hfile : (d.models.map (·.file c root))[i]? = some (m.file c root) := by
      rw [List.getElem?_map, hi, Option.map_some]
    exact ⟨_, text, hfile,
      Model.carries_of_entity (fun x hx => (hwf.fields_sound m hm x hx).typed) rfl, hrender, hread⟩
  · intro d' c' root' b' h' hb' f hf g hg hsame
    have hbatch' := batch_of_validate root' h'.accepted h'.enumModule.1 h'.decoratorModule.1
    obtain rfl := Except.ok.inj (hbatch'.symm.trans hb')
    obtain ⟨m, hm, rfl⟩ := List.mem_map.mp hf
    obtain ⟨n, hn, rfl⟩ := List.mem_map.mp hg
    obtain ⟨text, hrender, hread⟩ := h.read_render hm root
    obtain ⟨text', hrender', hread'⟩ := h'.read_render hn root'
    obtain rfl : text = text' := Except.ok.inj (hrender.symm.trans (hsame.trans hrender'))
    exact Option.some.inj (hread.symm.trans hread')

/-- A type that looks like the rest of a file. -/
def riddle : Document :=
  ⟨[⟨"Note", [{ name := "title", baseType := some "String" },
    { name := "body", baseType := some "#!\x7bIMPORTS\x7d; @Entity() \x7d" }]⟩]⟩

theorem content_of_batch_riddle : riddle.Printable blogConfig ∧
    ∃ b f text, riddle.batch blogConfig ⟨"project"⟩ = .ok b ∧ b.files[0]? = some f ∧
      f.render .classFile = .ok text ∧ ∃ content, Content.read text = some content ∧
        content.className = "Note" ∧ content.properties.map (fun p => (p.name, p.type))
          = [("title", "string"), ("body", "#!\x7bIMPORTS\x7d; @Entity() \x7d")] := by
  have hprintable : riddle.Printable blogConfig := by
    refine ⟨by rfl, ?_, by decide, by decide⟩
    simp only [riddle, List.forall_mem_cons]
    decide
  obtain ⟨b, hbatch, -, hfiles, -⟩ := content_of_batch riddle blogConfig ⟨"project"⟩ hprintable
  obtain ⟨f, text, hf, hcarries, hrender, hread⟩ := hfiles 0 _ rfl
  have hentity := (Model.entity_eq_ok_iff.mp hcarries.1).2
  refine ⟨hprintable, b, f, text, hbatch, hf, hrender, f.content, hread, ?_, ?_⟩
  · have hname : f.content.className = f.entity.className := rfl
    rw [hname, hentity]
    decide
  · have hproperties : f.content.properties.map (fun p => (p.name, p.type))
        = f.entity.properties.map fun p => (p.name, p.type) := List.map_map ..
    rw [hproperties, hentity]
    decide

/-- Two fields, and one whose type goes on like the second of them. -/
def whole : Document :=
  ⟨[⟨"Note", [{ name := "id", baseType := some "Key" },
    { name := "body", baseType := some "Markdown" }]⟩]⟩

@[inherit_doc whole]
def torn : Document :=
  ⟨[⟨"Note", [{ name := "id", baseType := some "Key;\n  body: Markdown" }]⟩]⟩

/-- **Line breaks in types are what may not be**: two documents that have been accepted, one text,
and not the same fields in it. -/
theorem same_text_torn : whole.validate = .ok () ∧ torn.validate = .ok () ∧
    ∃ b b' f g text, whole.batch { input := ⟨"schema.json"⟩ } ⟨"/project"⟩ = .ok b ∧
      torn.batch { input := ⟨"schema.json"⟩ } ⟨"/project"⟩ = .ok b' ∧ b.files = [f] ∧
      b'.files = [g] ∧ f.render .classFile = .ok text ∧ g.render .classFile = .ok text ∧
      f.content ≠ g.content := by
  have hbatch := batch_of_validate (d := whole) (c := { input := ⟨"schema.json"⟩ }) ⟨"/project"⟩
    (by rfl) (by decide) (by decide)
  have hbatch' := batch_of_validate (d := torn) (c := { input := ⟨"schema.json"⟩ }) ⟨"/project"⟩
    (by rfl) (by decide) (by decide)
  refine ⟨by rfl, by rfl, _, _, _, _, _, hbatch, hbatch', rfl, rfl,
    Model.render_file _ _ (by decide) (by decide), ?_, by decide⟩
  rw [Model.render_file _ _ (by decide) (by decide), Except.ok.injEq, ← String.toList_inj,
    ClassFile.toList_text (Model.records_file_ne_nil _ _),
    ClassFile.toList_text (Model.records_file_ne_nil _ _)]
  decide +kernel

end Document

end SchemaClass
