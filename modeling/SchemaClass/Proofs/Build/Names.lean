import SchemaClass.Proofs.Build.Settled
import SchemaClass.Proofs.Naming.ClassName
/-!
# Names in generated files

A generated file knows its own class, the classes and enums of its fields, and decorators, each by a
name.  Whether these names can be used at all, and whether they can be told apart, is not settled
when a document is accepted: it is checked by the names of its models, not by those of its classes,
and against one another only.

* `classNames_of_validate`: which class names are identifiers;
* `Model.NamesApart`, `Model.TypesApart`: what has to hold of a model for its names to be told apart;
* `names_of_run`: this is just what it takes, in every generated file.
-/

namespace SchemaClass

open Source

/-! ## 1. Class names -/

/-- The class names in the file of an entity: its own, in the declaration and in the tags of the
class, and those of the classes that it imports. -/
inductive Entity.Mentions (e : Entity) : String → Prop
  | declaration : e.Mentions (ClassDeclaration.ofEntity e).name
  | tag {t : Tag} {name : String} (ht : t ∈ e.tags) (hname : .identifier name ∈ t.arguments) :
    e.Mentions name
  | related {target : String} (h : target ∈ e.relations) : e.Mentions (Naming.pascal target)

namespace Document

variable {d : Document} {m : Model}

/-- A model and what it relates to are models. -/
theorem exists_model_of_target (hd : d.WellFormed) (hm : m ∈ d.models) {target : String}
    (h : target ∈ m.name :: m.targets) : ∃ n ∈ d.models, n.name = target := by
  rcases List.mem_cons.mp h with rfl | h
  · exact ⟨m, hm, rfl⟩
  · obtain ⟨-, f, hf, hrel, hb⟩ := Model.mem_targets.mp h
    exact (hd.fields_sound m hm f hf).target target hb hrel

theorem exists_model_of_mentions {mapper : TypeMapper} {decoration : Decoration}
    (hd : d.WellFormed) (hm : m ∈ d.models) {name : String}
    (h : (m.converted mapper decoration).Mentions name) :
    ∃ n ∈ d.models, name = Naming.pascal n.name := by
  cases h with
  | declaration => exact ⟨m, hm, rfl⟩
  | tag ht hname =>
    rw [List.mem_singleton.mp ht, List.mem_singleton] at hname
    cases hname
    exact ⟨m, hm, rfl⟩
  | @related target ht =>
    have htarget : target ∈ m.relations := ht
    rw [Model.relations_eq_targets] at htarget
    obtain ⟨n, hn, rfl⟩ := exists_model_of_target hd hm (List.mem_cons_of_mem _ htarget)
    exact ⟨n, hn, rfl⟩

/-- **Class names.**  In the files of a document that has been accepted, no class name is a reserved
word, and none has a character that identifiers have not.  It is an identifier unless the model name
begins with underscores and goes on with a digit or not at all. -/
theorem classNames_of_validate (hd : d.validate = .ok ()) (mapper : TypeMapper)
    (decoration : Decoration) :
    ∃ es, d.entities mapper decoration = .ok es ∧
      es.map (fun e => (ClassDeclaration.ofEntity e).name)
        = d.models.map (fun m => Naming.pascal m.name) ∧
      ∀ e ∈ es, ∀ name, e.Mentions name → ∃ m ∈ d.models, name = Naming.pascal m.name ∧
        name ∉ reservedWords ∧ (∀ c ∈ name.toList, ContinuesIdentifier c) ∧
        (SpelledAsIdentifier name ↔ Naming.HasUsableStart m.name) := by
  have hwf : d.WellFormed := (validate_decides d).ok_iff.mp hd
  refine ⟨_, entities_of_wellFormed hwf mapper decoration, ?_, ?_⟩
  · rw [List.map_map]
    rfl
  · intro e he name hname
    obtain ⟨m, hm, rfl⟩ := List.mem_map.mp he
    obtain ⟨n, hn, rfl⟩ := exists_model_of_mentions hwf hm hname
    have hspelled := (hwf.names_usable n hn).2
    exact ⟨n, hn, rfl, Naming.pascal_notMem_reservedWords hspelled,
      Naming.continues_pascal hspelled, Naming.spelledAsIdentifier_pascal_iff hspelled⟩

/-- Two models whose classes lose all that is in front of the digit. -/
def underscores : Document := ⟨[⟨"_", []⟩, ⟨"_1", []⟩]⟩

theorem validate_underscores : underscores.validate = .ok () := by rfl

theorem classNames_of_validate_underscores :
    underscores.validate = .ok () ∧
      ∃ es, underscores.entities .typeScript {} = .ok es ∧
        es.map (fun e => (ClassDeclaration.ofEntity e).name) = ["", "1"] ∧
        ∀ e ∈ es, ∀ name, e.Mentions name → name ∉ reservedWords := by
  obtain ⟨es, hes, hnames, hall⟩ := classNames_of_validate validate_underscores .typeScript {}
  refine ⟨validate_underscores, es, hes, hnames.trans (by decide), fun e he name hname => ?_⟩
  obtain ⟨-, -, -, hreserved, -⟩ := hall e he name hname
  exact hreserved

/-- **Not every class name is an identifier.** -/
theorem unusable_className_underscores :
    underscores.validate = .ok () ∧
      ∃ es, underscores.entities .typeScript {} = .ok es ∧
        ∀ e ∈ es, ¬ SpelledAsIdentifier (ClassDeclaration.ofEntity e).name := by
  refine ⟨by rfl, _, rfl, ?_⟩
  have hbad : ∀ name ∈ ["", "1"], ¬ SpelledAsIdentifier name := by
    intro name hname
    rw [← identifierFault?_eq_none_iff]
    revert name
    decide
  intro e he
  rcases List.mem_pair.mp he with rfl | rfl
  · exact hbad "" (by decide)
  · exact hbad "1" (by decide)

end Document

/-! ## 2. Names with two meanings

The names that a file binds come from four sources.  Only classes are known to differ, so what keeps
the others apart has to be said. -/

/-- The names that a file binds: its own class and what it imports. -/
def ClassFile.names (f : ClassFile) : List String := f.entity.className :: f.imports.symbols

namespace Model

/-- The types that the file of a model writes for its scalars. -/
def scalarTypes (m : Model) : List String :=
  m.fields.filterMap fun f => (f.baseType.bind Scalar.ofName?).map TypeMapper.typeScript.scalar

/-- What keeps the names in the file of a model apart: no enum and no decorator is called like the
class of the model, and a name that two sources share comes from one place. -/
structure NamesApart (c : Config) (root : Path) (m : Model) : Prop where
  own_enum : Naming.pascal m.name ∉ m.enums
  own_decorator : Naming.pascal m.name ∉ m.decorators c.decoration
  related_enum : ∀ t ∈ m.targets, Naming.pascal t ∈ m.enums →
    m.specifierTo c root t = m.originOf c root c.enumModule
  related_decorator : ∀ t ∈ m.targets, Naming.pascal t ∈ m.decorators c.decoration →
    m.specifierTo c root t = m.originOf c root c.decoratorModule
  enum_decorator : ∀ name ∈ m.enums, name ∈ m.decorators c.decoration →
    m.originOf c root c.enumModule = m.originOf c root c.decoratorModule

/-- What keeps the names in the file of a model apart from the types of its scalars.  Most of these
are in lowercase, which no class is. -/
structure TypesApart (m : Model) : Prop where
  enums : ∀ name ∈ m.enums, name ∉ m.scalarTypes
  classes : ∀ name ∈ m.name :: m.targets,
    Naming.pascal name = "Date" ∨ Naming.pascal name = "Buffer" →
      Naming.pascal name ∉ m.scalarTypes

instance (c : Config) (root : Path) (m : Model) : Decidable (m.NamesApart c root) :=
  decidable_of_iff
    (Naming.pascal m.name ∉ m.enums ∧ Naming.pascal m.name ∉ m.decorators c.decoration ∧
      (∀ t ∈ m.targets, Naming.pascal t ∈ m.enums →
        m.specifierTo c root t = m.originOf c root c.enumModule) ∧
      (∀ t ∈ m.targets, Naming.pascal t ∈ m.decorators c.decoration →
        m.specifierTo c root t = m.originOf c root c.decoratorModule) ∧
      ∀ name ∈ m.enums, name ∈ m.decorators c.decoration →
        m.originOf c root c.enumModule = m.originOf c root c.decoratorModule)
    ⟨fun ⟨h₁, h₂, h₃, h₄, h₅⟩ => ⟨h₁, h₂, h₃, h₄, h₅⟩,
      fun h => ⟨h.own_enum, h.own_decorator, h.related_enum, h.related_decorator, h.enum_decorator⟩⟩

instance (m : Model) : Decidable m.TypesApart :=
  decidable_of_iff
    ((∀ name ∈ m.enums, name ∉ m.scalarTypes) ∧
      ∀ name ∈ m.name :: m.targets, Naming.pascal name = "Date" ∨ Naming.pascal name = "Buffer" →
        Naming.pascal name ∉ m.scalarTypes)
    ⟨fun ⟨h₁, h₂⟩ => ⟨h₁, h₂⟩, fun h => ⟨h.enums, h.classes⟩⟩

theorem exists_scalar_of_mem_scalarTypes {m : Model} {type : String} (h : type ∈ m.scalarTypes) :
    ∃ s, type = TypeMapper.typeScript.scalar s := by
  obtain ⟨f, -, hf⟩ := List.mem_filterMap.mp h
  obtain ⟨s, -, rfl⟩ := Option.map_eq_some_iff.mp hf
  exact ⟨s, rfl⟩

theorem decorator_notMem_scalarTypes {m : Model} {decoration : Decoration} {name : String}
    (h : name ∈ m.decorators decoration) : name ∉ m.scalarTypes := by
  intro hmem
  obtain ⟨s, rfl⟩ := exists_scalar_of_mem_scalarTypes hmem
  rcases mem_decorators.mp h with h | ⟨h, -⟩ <;> cases s <;> exact absurd h (by decide)

end Model

/-- The only types of scalars that a class can be called like. -/
theorem Naming.pascal_eq_scalar {s : String} (h : SpelledAsIdentifier s) {k : Scalar}
    (hk : pascal s = TypeMapper.typeScript.scalar k) : pascal s = "Date" ∨ pascal s = "Buffer" := by
  have hhead : ∀ c cs, (TypeMapper.typeScript.scalar k).toList = c :: cs → c.isLower = false :=
    fun c cs hc => isLower_head_pascal h (hk ▸ hc)
  cases k with
  | dateTime => exact Or.inl hk
  | bytes => exact Or.inr hk
  | _ => exact absurd (hhead _ _ rfl) (by decide)

namespace Document

variable {c : Config} {root : Path} {d : Document} {m : Model} {build : Build}

section Accepted

variable (hd : d.WellFormed) (hm : m ∈ d.models)

include hd hm

/-- A model and those that it relates to have classes of different names. -/
theorem eq_of_pascal_eq {s t : String} (hs : s ∈ m.name :: m.targets) (ht : t ∈ m.name :: m.targets)
    (h : Naming.pascal s = Naming.pascal t) : s = t := by
  obtain ⟨a, ha, rfl⟩ := exists_model_of_target hd hm hs
  obtain ⟨b, hb, rfl⟩ := exists_model_of_target hd hm ht
  have hab : a = b := List.inj_on_of_nodup_map hd.classes_nodup ha hb h
  rw [hab]

/-- The class of a model is not among those that it relates to. -/
theorem pascal_target_ne {t : String} (ht : t ∈ m.targets) :
    Naming.pascal m.name ≠ Naming.pascal t := fun h =>
  (Model.mem_targets.mp ht).1
    (eq_of_pascal_eq hd hm List.mem_cons_self (List.mem_cons_of_mem _ ht) h).symm

/-- **What comes from one source comes from one place**, and what comes from two sources does so if
the names are apart.  Of classes it is known that no two share a name; enums and decorators have one
module each. -/
theorem origin_eq_of_imports (h : m.NamesApart c root) {symbol origin origin' : String}
    (ho : m.Imports c root symbol origin) (ho' : m.Imports c root symbol origin') :
    origin = origin' := by
  rcases Model.imports_cases ho with ⟨t, ht, hs, hfrom⟩ | ⟨hn, hfrom⟩ | ⟨hn, hfrom⟩ <;> rw [hfrom]
  · rcases Model.imports_cases ho' with ⟨u, hu, hs', hfrom'⟩ | ⟨hn', hfrom'⟩ | ⟨hn', hfrom'⟩ <;>
      rw [hfrom']
    · have htu := eq_of_pascal_eq hd hm (List.mem_cons_of_mem _ ht) (List.mem_cons_of_mem _ hu)
        (hs.symm.trans hs')
      rw [htu]
    · exact h.related_enum t ht (hs ▸ hn')
    · exact h.related_decorator t ht (hs ▸ hn')
  · rcases Model.imports_cases ho' with ⟨u, hu, hs', hfrom'⟩ | ⟨-, hfrom'⟩ | ⟨hn', hfrom'⟩ <;>
      rw [hfrom']
    · exact (h.related_enum u hu (hs' ▸ hn)).symm
    · exact h.enum_decorator symbol hn hn'
  · rcases Model.imports_cases ho' with ⟨u, hu, hs', hfrom'⟩ | ⟨hn', hfrom'⟩ | ⟨-, hfrom'⟩ <;>
      rw [hfrom']
    · exact (h.related_decorator u hu (hs' ▸ hn)).symm
    · exact (h.enum_decorator symbol hn' hn).symm

/-- **When no name of a file stands for two things.** -/
theorem nodup_names_iff : (m.settledFile c root).names.Nodup ↔ m.NamesApart c root := by
  rw [ClassFile.names, List.nodup_cons, Model.nodup_symbols_settledFile_iff,
    Model.mem_symbols_settledFile]
  constructor
  · rintro ⟨hown, hone⟩
    exact
      { own_enum := fun h => hown (Or.inr (Or.inl h))
        own_decorator := fun h => hown (Or.inr (Or.inr h))
        related_enum := fun t ht h => hone _ _ _ (.related ht) (.enum h)
        related_decorator := fun t ht h => hone _ _ _ (.related ht) (.decorator h)
        enum_decorator := fun name hn hn' => hone _ _ _ (.enum hn) (.decorator hn') }
  · intro h
    refine ⟨?_, fun _ _ _ ho ho' => origin_eq_of_imports hd hm h ho ho'⟩
    rintro (⟨t, ht, heq⟩ | hn | hn)
    · exact pascal_target_ne hd hm ht heq
    · exact h.own_enum hn
    · exact h.own_decorator hn

/-- **When no name of a file is the type of one of its scalars.** -/
theorem notMem_scalarTypes_iff :
    (∀ name ∈ (m.settledFile c root).names, name ∉ m.scalarTypes) ↔ m.TypesApart := by
  rw [ClassFile.names, List.forall_mem_cons]
  constructor
  · rintro ⟨hown, hall⟩
    refine ⟨fun name hn => hall name (Model.mem_symbols_settledFile.mpr (Or.inr (Or.inl hn))),
      fun t ht _ => ?_⟩
    rcases List.mem_cons.mp ht with rfl | ht
    · exact hown
    · exact hall _ (Model.mem_symbols_settledFile.mpr (Or.inl ⟨t, ht, rfl⟩))
  · intro h
    have hclass : ∀ t ∈ m.name :: m.targets, Naming.pascal t ∉ m.scalarTypes := by
      intro t ht hmem
      obtain ⟨n, hn, hname⟩ := exists_model_of_target hd hm ht
      obtain ⟨s, hs⟩ := Model.exists_scalar_of_mem_scalarTypes hmem
      have hspelled : SpelledAsIdentifier t := hname ▸ (hd.names_usable n hn).2
      exact h.classes t ht (Naming.pascal_eq_scalar hspelled hs) hmem
    refine ⟨hclass m.name List.mem_cons_self, fun name hname => ?_⟩
    rcases Model.mem_symbols_settledFile.mp hname with ⟨t, ht, rfl⟩ | hn | hn
    · exact hclass t (List.mem_cons_of_mem _ ht)
    · exact h.enums name hn
    · exact Model.decorator_notMem_scalarTypes hn

end Accepted

/-- **Names in generated files.**  In every file that a run makes of a document that has been
accepted, the names that the file binds differ from one another, and from the types of its scalars,
just if the model keeps them apart. -/
theorem names_of_run (hd : d.validate = .ok ())
    (hrun : Pipeline.typeScript.run d c root = .ok build) :
    ∃ batch, build.batch = some batch ∧
      List.Forall₂ (fun m file => file.entity.name = m.name ∧
          (file.names.Nodup ↔ m.NamesApart c root) ∧
          ((∀ name ∈ file.names, name ∉ m.scalarTypes) ↔ m.TypesApart))
        d.models batch.files := by
  have hwf : d.WellFormed := (validate_decides d).ok_iff.mp hd
  rw [run_eq_settled hwf hrun]
  exact forall_files_settled fun m hm =>
    ⟨rfl, nodup_names_iff hwf hm, notMem_scalarTypes_iff hwf hm⟩

/-- Posts and an enum of the same name, which one file exports. -/
def namesakes : Document :=
  ⟨[⟨"User", [{ name := "posts", kind := .object, baseType := some "Post", isList := true,
                relationName := some "PostToUser" },
              { name := "favourite", kind := .enum, baseType := some "Post" },
              { name := "joined", baseType := some "DateTime" }]⟩,
    ⟨"Post", []⟩]⟩

def namesakesConfig : Config := { input := ⟨"blog.json"⟩, enumModule := "./post" }

theorem validate_namesakes : namesakes.validate = .ok () := by rfl

theorem run_namesakes : Pipeline.typeScript.run namesakes namesakesConfig ⟨"project"⟩
    = .ok (namesakes.built namesakesConfig ⟨"project"⟩) :=
  run_built_of_validate ⟨"project"⟩ validate_namesakes (by decide) (by decide)

theorem names_of_run_namesakes :
    namesakes.validate = .ok () ∧
      Pipeline.typeScript.run namesakes namesakesConfig ⟨"project"⟩
        = .ok (namesakes.built namesakesConfig ⟨"project"⟩) ∧
      ∃ batch, (namesakes.built namesakesConfig ⟨"project"⟩).batch = some batch ∧
        List.Forall₂ (fun m file => file.names.Nodup ∧ ∀ name ∈ file.names, name ∉ m.scalarTypes)
          namesakes.models batch.files := by
  have hapart : ∀ m ∈ namesakes.models, m.NamesApart namesakesConfig ⟨"project"⟩ ∧ m.TypesApart := by
    decide +kernel
  obtain ⟨batch, hbatch, hfiles⟩ := names_of_run validate_namesakes run_namesakes
  refine ⟨validate_namesakes, run_namesakes, batch, hbatch, ?_⟩
  refine ((List.forall₂_and_left _ _).mpr ⟨hapart, hfiles⟩).imp fun m file ⟨⟨hn, ht⟩, h⟩ => ?_
  obtain ⟨-, hnames, htypes⟩ := h
  exact ⟨hnames.mpr hn, htypes.mpr ht⟩

/-- An event with enums that are called like the event and like the type of its date. -/
def event : Model :=
  ⟨"Event", [{ name := "kind", kind := .enum, baseType := some "Event" },
             { name := "date", kind := .enum, baseType := some "Date" },
             { name := "at", baseType := some "DateTime" }]⟩

def calendar : Document := ⟨[event]⟩

/-- **A name can stand for two things.** -/
theorem clashing_names_calendar :
    calendar.validate = .ok () ∧
      ∃ build file, Pipeline.typeScript.run calendar { input := ⟨"events.json"⟩ } ⟨"project"⟩
          = .ok build ∧
        build.batch = some ⟨[file]⟩ ∧ ¬ file.names.Nodup ∧
        "Date" ∈ file.names ∧ "Date" ∈ event.scalarTypes := by
  have hvalid : calendar.validate = .ok () := by rfl
  have hwf : calendar.WellFormed := (validate_decides calendar).ok_iff.mp hvalid
  have hrun := run_built_of_validate (c := { input := ⟨"events.json"⟩ }) ⟨"project"⟩ hvalid
    (by decide) (by decide)
  rw [run_eq_settled hwf hrun] at hrun
  refine ⟨hvalid, _, event.settledFile _ _, hrun, rfl, fun hnodup => ?_, ?_, by decide⟩
  · have hown := ((nodup_names_iff hwf List.mem_cons_self).mp hnodup).own_enum
    exact hown (by decide)
  · have hdate : "Date" ∈ event.enums := by decide
    exact List.mem_cons_of_mem _ (Model.mem_symbols_settledFile.mpr (Or.inr (Or.inl hdate)))

end Document

end SchemaClass
