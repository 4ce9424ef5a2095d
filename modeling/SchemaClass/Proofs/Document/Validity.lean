import SchemaClass.Document.Validation
import SchemaClass.Proofs.Outcome
/-!
# What the check of a document accepts, and what its findings mean

`Document.validate` walks over the models three times and stops at the first finding.  What it has
seen it keeps in lists: names of models, the class names and the file names that are taken, names of
fields.  `Document.WellFormed` says what a document has to be without any of that, and
`Finding.Describes` says of a finding what it promises about the document.

Every pass is decided against both at once (`Decides`): the lists are always the data of the models
that have been passed, and a finding speaks of the model at hand and of one of those.

* `WellFormed.classes_nodup`, `WellFormed.files_nodup` and the other fields: the conditions;
* `validate_decides`: the check accepts the well-formed documents, and its findings hold;
* `validate_accepts_exactly`: the same, as one statement about `validate`.
-/

namespace SchemaClass

/-! ## 1. Identifiers -/

/-- A letter, `_` or `$`. -/
def StartsIdentifier (c : Char) : Prop := c.isAlpha = true ∨ c = '_' ∨ c = '$'

/-- A letter, a digit, `_` or `$`. -/
def ContinuesIdentifier (c : Char) : Prop := c.isAlphanum = true ∨ c = '_' ∨ c = '$'

/-- The spelling of an identifier. -/
def SpelledAsIdentifier (name : String) : Prop :=
  ∃ c cs, name.toList = c :: cs ∧ StartsIdentifier c ∧ ∀ d ∈ cs, ContinuesIdentifier d

/-- What each fault says of a name. -/
def NameFault.Spoils (name : String) : NameFault → Prop
  | reserved => name ∈ reservedWords
  | empty => name = ""
  | badStart => ∃ c cs, name.toList = c :: cs ∧ ¬ StartsIdentifier c
  | badCharacter => ∃ c cs, name.toList = c :: cs ∧ ∃ d ∈ cs, ¬ ContinuesIdentifier d

theorem isIdentifierStart_iff {c : Char} : isIdentifierStart c = true ↔ StartsIdentifier c := by
  simp [isIdentifierStart, StartsIdentifier, or_assoc]

theorem isIdentifierPart_iff {c : Char} : isIdentifierPart c = true ↔ ContinuesIdentifier c := by
  simp [isIdentifierPart, ContinuesIdentifier, or_assoc]

theorem identifierFault?_eq_none_iff {name : String} :
    identifierFault? name = none ↔ SpelledAsIdentifier name := by
  have h : identifierFault? name = none ↔ _ := isIdentifier_iff
  rw [h]
  simp only [isIdentifierStart_iff, isIdentifierPart_iff, SpelledAsIdentifier]

/-- A fault that is found is there. -/
theorem spoils_of_identifierFault? {name : String} {fault : NameFault}
    (h : identifierFault? name = some fault) : fault.Spoils name := by
  unfold identifierFault? at h
  split at h
  · next hnil =>
    cases h
    exact String.toList_eq_nil_iff.mp hnil
  · next c cs hcons =>
    split at h
    · next hstart =>
      cases h
      refine ⟨c, cs, hcons, ?_⟩
      rw [← isIdentifierStart_iff]
      simpa using hstart
    · split at h
      · cases h
      · next hall =>
        cases h
        obtain ⟨d, hd, hbad⟩ : ∃ d ∈ cs, ¬ isIdentifierPart d = true := by simpa using hall
        exact ⟨c, cs, hcons, d, hd, fun hc => hbad (isIdentifierPart_iff.mpr hc)⟩

/-! ## 2. Well-formed documents -/

/-- A field whose name and type can be used in a class: a type is there, an enum or a relation names
it by an identifier, and a relation leads to a model. -/
structure Field.WellFormed (d : Document) (f : Field) : Prop where
  name_spelled : SpelledAsIdentifier f.name
  typed : ∃ base, f.baseType = some base
  type_spelled : ∀ base, f.baseType = some base → f.isEnum = true ∨ f.isRelation = true →
    SpelledAsIdentifier base
  target : ∀ base, f.baseType = some base → f.isRelation = true → ∃ t ∈ d.models, t.name = base

/-- A document that can be generated. -/
structure Document.WellFormed (d : Document) : Prop where
  models_nodup : (d.models.map (·.name)).Nodup
  names_usable : ∀ m ∈ d.models, m.name ∉ reservedWords ∧ SpelledAsIdentifier m.name
  /-- no two classes share a name -/
  classes_nodup : (d.models.map fun m => Naming.pascal m.name).Nodup
  /-- no two files share a name -/
  files_nodup : (d.models.map fun m => Naming.kebab m.name).Nodup
  fields_nodup : ∀ m ∈ d.models, (m.fields.map (·.name)).Nodup
  fields_sound : ∀ m ∈ d.models, ∀ f ∈ m.fields, f.WellFormed d

/-! ## 3. What a finding says -/

/-- The name stands in the document where the owner says. -/
def NameOwner.Owns (d : Document) (name : String) : NameOwner → Prop
  | model => ∃ m ∈ d.models, m.name = name
  | field holder => ∃ m ∈ d.models, m.name = holder ∧ ∃ f ∈ m.fields, f.name = name
  | fieldType holder part => ∃ m ∈ d.models, m.name = holder ∧ ∃ f ∈ m.fields, f.name = part ∧
      f.baseType = some name ∧ (f.isEnum = true ∨ f.isRelation = true)

/-- What a finding promises about the document. -/
def Finding.Describes (d : Document) : Finding → Prop
  | duplicateModel name => 2 ≤ (d.models.map (·.name)).count name
  | duplicateField model name =>
    ∃ m ∈ d.models, m.name = model ∧ 2 ≤ (m.fields.map (·.name)).count name
  | invalidName owner name fault => owner.Owns d name ∧ fault.Spoils name ∧
      (name ∈ reservedWords ∨ ¬ SpelledAsIdentifier name)
  | nameCollision first second generated =>
    first ≠ second ∧ [first, second].Sublist (d.models.map (·.name)) ∧
      (Naming.pascal first = generated ∧ Naming.pascal second = generated ∨
        Naming.kebab first = generated ∧ Naming.kebab second = generated)
  | missingType model field =>
    ∃ m ∈ d.models, m.name = model ∧ ∃ f ∈ m.fields, f.name = field ∧ f.baseType = none
  | unknownRelation model field target =>
    ∃ m ∈ d.models, m.name = model ∧ ∃ f ∈ m.fields, f.name = field ∧ f.isRelation = true ∧
      f.baseType = some target ∧ ∀ t ∈ d.models, t.name ≠ target

namespace Document

open Outcome

variable {d : Document} {m : Model} {f : Field}

/-! ## 4. Names of models -/

theorem checkIdentifier_decides {owner : NameOwner} {name : String} (ho : owner.Owns d name) :
    Decides (checkIdentifier owner name) (SpelledAsIdentifier name) (·.Describes d) := by
  unfold checkIdentifier
  cases h : identifierFault? name with
  | none => exact .ok (identifierFault?_eq_none_iff.mp h)
  | some fault =>
    have hbad : ¬ SpelledAsIdentifier name := by
      rw [← identifierFault?_eq_none_iff, h]
      exact Option.some_ne_none fault
    exact .error hbad ⟨ho, spoils_of_identifierFault? h, Or.inr hbad⟩

theorem checkModelName_decides (hm : m ∈ d.models) :
    Decides (checkModelName m.name) (m.name ∉ reservedWords ∧ SpelledAsIdentifier m.name)
      (·.Describes d) := by
  have ho : NameOwner.model.Owns d m.name := ⟨m, hm, rfl⟩
  unfold checkModelName
  by_cases hr : m.name ∈ reservedWords
  · rw [if_pos (List.contains_iff_mem.mpr hr)]
    exact .error (fun h => h.1 hr) ⟨ho, hr, Or.inl hr⟩
  · rw [if_neg fun h => hr (List.contains_iff_mem.mp h)]
    exact (checkIdentifier_decides ho).congr ⟨fun h => ⟨hr, h⟩, fun h => h.2⟩

/-! ### A walk that refuses repetition

Names of models and names of fields are walked over in the same way: a name that has been seen is
refused, then the element itself is checked, then its name counts as seen. -/

section Walk

variable {α : Type} {name : α → String} {one : α → Except Finding Unit}
  {walk : List String → List α → Except Finding Unit}

/-- A name that comes again after it has been passed stands twice in the list. -/
theorem two_le_count {names rest : List String} {n : String} (h : n ∈ names) :
    2 ≤ (names ++ n :: rest).count n := by
  have hpos : 0 < names.count n := List.count_pos_iff.mpr h
  rw [List.count_append, List.count_cons_self]
  omega

/-- **A walk accepts lists without repetition whose elements it accepts.**  The elements `done` have
been passed, and their names are those that have been seen. -/
theorem walk_decides (repeated : String → Finding) {all : List α} {good : α → Prop}
    {bad : Finding → Prop}
    (hnil : ∀ seen, walk seen [] = .ok ())
    (hcons : ∀ seen a as, walk seen (a :: as)
      = if seen.contains (name a) = true then
          (do throw (repeated (name a)); one a; walk (name a :: seen) as)
        else (do one a; walk (name a :: seen) as))
    (hone : ∀ a ∈ all, Decides (one a) (good a) bad)
    (hrep : ∀ n, 2 ≤ (all.map name).count n → bad (repeated n)) :
    ∀ as done, done ++ as = all → (done.map name).Nodup →
      Decides (walk (done.map name).reverse as) ((all.map name).Nodup ∧ ∀ a ∈ as, good a) bad
  | [], done, hd, hnd => by
    rw [List.append_nil] at hd
    subst hd
    rw [hnil]
    exact .ok ⟨hnd, fun _ ha => absurd ha List.not_mem_nil⟩
  | a :: as, done, hd, hnd => by
    have hnames : all.map name = done.map name ++ name a :: as.map name := by simp [← hd]
    have hseen : (done.map name).reverse.contains (name a) = true ↔ name a ∈ done.map name := by
      simp
    have hrest : name a ∉ done.map name →
        Decides (walk (name a :: (done.map name).reverse) as)
          ((all.map name).Nodup ∧ ∀ a ∈ as, good a) bad := by
      intro hnew
      have hnd' : ((done ++ [a]).map name).Nodup := by
        rw [List.map_append, List.map_singleton, List.nodup_append]
        refine ⟨hnd, by simp, ?_⟩
        rintro x hx y hy rfl
        exact hnew (List.mem_singleton.mp hy ▸ hx)
      have h := walk_decides repeated hnil hcons hone hrep as (done ++ [a]) (by simpa using hd) hnd'
      rwa [List.map_append, List.map_singleton, List.reverse_append] at h
    rw [hcons]
    refine (Decides.guardThen (fun h => ?_) fun h =>
      (hone a (by simp [← hd])).bind fun _ => hrest (mt hseen.mpr h)).congr ?_
    · apply hrep
      rw [hnames]
      exact two_le_count (hseen.mp h)
    · rw [hseen, List.forall_mem_cons]
      constructor
      · rintro ⟨-, ha, hall, hgood⟩
        exact ⟨hall, ha, hgood⟩
      · rintro ⟨hall, ha, hgood⟩
        refine ⟨fun hin => ?_, ha, hall, hgood⟩
        rw [hnames, List.nodup_append] at hall
        exact hall.2.2 _ hin _ (by simp) rfl

end Walk

/-- The first pass. -/
theorem checkModelNames_decides :
    Decides (checkModelNames [] d.models)
      ((d.models.map (·.name)).Nodup ∧
        ∀ m ∈ d.models, m.name ∉ reservedWords ∧ SpelledAsIdentifier m.name)
      (·.Describes d) :=
  walk_decides .duplicateModel (fun _ => rfl) (fun _ _ _ => rfl)
    (fun _ hm => checkModelName_decides hm) (fun _ h => h) d.models [] rfl List.nodup_nil

/-! ## 5. Names of classes and files -/

/-- The names that the models `done` have taken under a rule for names, the latest first. -/
def taken (rule : String → String) (done : List Model) : List (String × String) :=
  (done.map fun m => (rule m.name, m.name)).reverse

theorem taken_append_singleton (rule : String → String) (done : List Model) (m : Model) :
    taken rule (done ++ [m]) = (rule m.name, m.name) :: taken rule done := by
  simp [taken]

theorem mem_taken {rule : String → String} {done : List Model} {entry : String × String} :
    entry ∈ taken rule done ↔ ∃ m ∈ done, (rule m.name, m.name) = entry := by
  simp [taken]

/-- Either the rule gives a model a new name, which is taken then, or the name is that of a model
before. -/
theorem claimName_taken (rule : String → String) (done : List Model) (m : Model) :
    (rule m.name ∉ done.map (fun m => rule m.name) ∧
        claimName (taken rule done) (rule m.name) m.name = .ok (taken rule (done ++ [m]))) ∨
      ∃ first ∈ done, rule first.name = rule m.name ∧
        claimName (taken rule done) (rule m.name) m.name
          = .error (.nameCollision first.name m.name (rule m.name)) := by
  unfold claimName
  cases h : (taken rule done).lookup (rule m.name) with
  | none =>
    refine Or.inl ⟨fun hin => ?_, by rw [taken_append_singleton]⟩
    obtain ⟨first, hf, he⟩ := List.mem_map.mp hin
    rw [List.lookup_eq_none_iff] at h
    have hne := h _ (mem_taken.mpr ⟨first, hf, rfl⟩)
    simp [he] at hne
  | some name =>
    obtain ⟨front, back, hsplit, -⟩ := List.lookup_eq_some_iff.mp h
    have hmem : (rule m.name, name) ∈ taken rule done := by simp [hsplit]
    obtain ⟨first, hf, he⟩ := mem_taken.mp hmem
    obtain ⟨hrule, rfl⟩ := Prod.mk.inj he
    exact Or.inr ⟨first, hf, hrule, rfl⟩

theorem collision_describes {done ms : List Model} {first : Model} {generated : String}
    (hnd : (d.models.map (·.name)).Nodup) (hd : done ++ m :: ms = d.models) (hf : first ∈ done)
    (hg : Naming.pascal first.name = generated ∧ Naming.pascal m.name = generated ∨
      Naming.kebab first.name = generated ∧ Naming.kebab m.name = generated) :
    (Finding.nameCollision first.name m.name generated).Describes d := by
  have hnames : d.models.map (·.name) = done.map (·.name) ++ m.name :: ms.map (·.name) := by
    simp [← hd]
  have hfirst : first.name ∈ done.map (·.name) := List.mem_map_of_mem hf
  refine ⟨?_, ?_, hg⟩
  · rw [hnames, List.nodup_append] at hnd
    exact hnd.2.2 _ hfirst _ (by simp)
  · rw [hnames]
    exact (List.singleton_sublist.mpr hfirst).append
      (List.singleton_sublist.mpr (List.mem_cons_self))

/-- A rule that gives a new name leaves the names of all models without repetition if it did so
before. -/
theorem nodup_names_append {rule : String → String} {done : List Model}
    (hnd : (done.map fun m => rule m.name).Nodup)
    (hnew : rule m.name ∉ done.map fun m => rule m.name) :
    ((done ++ [m]).map fun m => rule m.name).Nodup := by
  rw [List.map_append, List.nodup_append]
  refine ⟨hnd, by simp, ?_⟩
  rintro x hx y hy rfl
  obtain rfl : x = rule m.name := by simpa using hy
  exact hnew hx

/-- A name that a rule gives again is a repetition among the names of all models. -/
theorem not_nodup_names {rule : String → String} {done ms : List Model} {first : Model}
    (hd : done ++ m :: ms = d.models) (hf : first ∈ done) (he : rule first.name = rule m.name) :
    ¬ (d.models.map fun m => rule m.name).Nodup := by
  intro hnd
  rw [← hd, List.map_append, List.nodup_append] at hnd
  exact hnd.2.2 _ (List.mem_map_of_mem hf) _ (by simp) he

/-- The second pass, behind the models `done`, which have taken the names of their classes and
files. -/
theorem checkGeneratedNames_decides (hnames : (d.models.map (·.name)).Nodup) :
    ∀ (ms done : List Model), done ++ ms = d.models →
    (done.map fun m => Naming.pascal m.name).Nodup →
    (done.map fun m => Naming.kebab m.name).Nodup →
    Decides (checkGeneratedNames (taken Naming.pascal done) (taken Naming.kebab done) ms)
      ((d.models.map fun m => Naming.pascal m.name).Nodup ∧
        (d.models.map fun m => Naming.kebab m.name).Nodup)
      (·.Describes d)
  | [], done, hd, hclasses, hfiles => by
    rw [List.append_nil] at hd
    subst hd
    exact .ok ⟨hclasses, hfiles⟩
  | m :: ms, done, hd, hclasses, hfiles => by
    rw [checkGeneratedNames]
    rcases claimName_taken Naming.pascal done m with ⟨hc, hcok⟩ | ⟨first, hf, he, herr⟩
    · rcases claimName_taken Naming.kebab done m with ⟨hk, hkok⟩ | ⟨first, hf, he, herr⟩
      · rw [hcok, hkok]
        exact checkGeneratedNames_decides hnames ms (done ++ [m]) (by simpa using hd)
          (nodup_names_append hclasses hc) (nodup_names_append hfiles hk)
      · rw [hcok, herr]
        exact .error (fun h => not_nodup_names hd hf he h.2)
          (collision_describes hnames hd hf (Or.inr ⟨he, rfl⟩))
    · rw [herr]
      exact .error (fun h => not_nodup_names hd hf he h.1)
        (collision_describes hnames hd hf (Or.inl ⟨he, rfl⟩))

/-! ## 6. Fields -/

/-- What is left to ask of a field of a given base type. -/
theorem fieldWellFormed_iff {base : String} (hb : f.baseType = some base) :
    f.WellFormed d ↔ SpelledAsIdentifier f.name ∧
      (f.isEnum = true ∨ f.isRelation = true → SpelledAsIdentifier base) ∧
      (f.isRelation = true → ∃ t ∈ d.models, t.name = base) := by
  constructor
  · intro h
    exact ⟨h.name_spelled, h.type_spelled base hb, h.target base hb⟩
  · rintro ⟨hname, htype, htarget⟩
    refine ⟨hname, ⟨base, hb⟩, fun b hb' => ?_, fun b hb' => ?_⟩
    all_goals
      obtain rfl : base = b := Option.some.inj (hb.symm.trans hb')
      assumption

/-- A relation leads nowhere if no model has the name of its type. -/
theorem dangling_iff {base : String} : (f.isRelation && !d.hasModel base) = true ↔
    ¬ (f.isRelation = true → ∃ t ∈ d.models, t.name = base) := by
  rw [Bool.and_eq_true, Bool.not_eq_true', ← Bool.not_eq_true, hasModel_iff]
  exact Classical.not_imp.symm

theorem checkField_decides (hm : m ∈ d.models) (hf : f ∈ m.fields) :
    Decides (checkField d m f) (f.WellFormed d) (·.Describes d) := by
  have hname : Decides (checkIdentifier (.field m.name) f.name) (SpelledAsIdentifier f.name)
      (·.Describes d) := checkIdentifier_decides ⟨m, hm, rfl, f, hf, rfl⟩
  unfold checkField
  cases hb : f.baseType with
  | none =>
    have hmissing : Decides (throw (.missingType m.name f.name) : Except Finding Unit) False
        (·.Describes d) := .error id ⟨m, hm, rfl, f, hf, rfl, hb⟩
    refine (hname.bind fun _ => hmissing).congr ⟨fun h => h.2.elim, fun h => ?_⟩
    obtain ⟨base, hbase⟩ := h.typed
    exact absurd (hb.symm.trans hbase) (by simp)
  | some base =>
    rw [fieldWellFormed_iff hb]
    dsimp only
    refine hname.bind fun _ => ?_
    have htarget : Decides
        (if (f.isRelation && !d.hasModel base) = true then
          throw (.unknownRelation m.name f.name base) else pure () : Except Finding Unit)
        (f.isRelation = true → ∃ t ∈ d.models, t.name = base) (·.Describes d) := by
      refine (Decides.guardOnly fun h => ?_).congr (by rw [dangling_iff, Classical.not_not])
      obtain ⟨hrel, hnone⟩ := Classical.not_imp.mp (dangling_iff.mp h)
      exact ⟨m, hm, rfl, f, hf, rfl, hrel, hb, fun t ht he => hnone ⟨t, ht, he⟩⟩
    by_cases hk : f.isEnum = true ∨ f.isRelation = true
    · have htype : Decides (checkIdentifier (.fieldType m.name f.name) base)
          (SpelledAsIdentifier base) (·.Describes d) :=
        checkIdentifier_decides ⟨m, hm, rfl, f, hf, rfl, hb, hk⟩
      rw [if_pos (Bool.or_eq_true .. ▸ hk)]
      exact (htype.bind fun _ => htarget).congr (by simp only [hk, true_imp_iff])
    · rw [if_neg (Bool.or_eq_true .. ▸ hk)]
      exact htarget.congr (by simp only [hk, false_imp_iff, true_and])

/-- The fields of one model. -/
theorem checkFields_decides (hm : m ∈ d.models) :
    Decides (checkFields d m [] m.fields)
      ((m.fields.map (·.name)).Nodup ∧ ∀ f ∈ m.fields, f.WellFormed d) (·.Describes d) :=
  walk_decides (.duplicateField m.name) (fun _ => rfl) (fun _ _ _ => rfl)
    (fun _ hf => checkField_decides hm hf) (fun _ h => ⟨m, hm, rfl, h⟩) m.fields [] rfl
    List.nodup_nil

/-- The third pass, over some of the models. -/
theorem checkAllFields_decides : ∀ ms : List Model, (∀ m ∈ ms, m ∈ d.models) →
    Decides (checkAllFields d ms)
      (∀ m ∈ ms, (m.fields.map (·.name)).Nodup ∧ ∀ f ∈ m.fields, f.WellFormed d) (·.Describes d)
  | [], _ => .ok fun _ hm => absurd hm List.not_mem_nil
  | m :: ms, hsub => by
    have hm : m ∈ d.models := hsub m (by simp)
    have hms : ∀ m' ∈ ms, m' ∈ d.models := fun m' hm' => hsub m' (by simp [hm'])
    rw [List.forall_mem_cons]
    exact (checkFields_decides hm).bind fun _ => checkAllFields_decides ms hms

/-! ## 7. Documents -/

theorem wellFormed_iff : d.WellFormed ↔
    ((d.models.map (·.name)).Nodup ∧
        ∀ m ∈ d.models, m.name ∉ reservedWords ∧ SpelledAsIdentifier m.name) ∧
      ((d.models.map fun m => Naming.pascal m.name).Nodup ∧
        (d.models.map fun m => Naming.kebab m.name).Nodup) ∧
      ∀ m ∈ d.models, (m.fields.map (·.name)).Nodup ∧ ∀ f ∈ m.fields, f.WellFormed d := by
  constructor
  · intro h
    exact ⟨⟨h.models_nodup, h.names_usable⟩, ⟨h.classes_nodup, h.files_nodup⟩,
      fun m hm => ⟨h.fields_nodup m hm, h.fields_sound m hm⟩⟩
  · rintro ⟨⟨hnd, hnames⟩, ⟨hclasses, hfiles⟩, hfields⟩
    exact ⟨hnd, hnames, hclasses, hfiles, fun m hm => (hfields m hm).1,
      fun m hm => (hfields m hm).2⟩

/-- The three passes together. -/
theorem validate_decides (d : Document) : Decides d.validate d.WellFormed (·.Describes d) := by
  refine Decides.congr ?_ wellFormed_iff.symm
  refine checkModelNames_decides.bind fun hnames => ?_
  refine Decides.bind ?_ fun _ => checkAllFields_decides d.models fun _ hm => hm
  exact checkGeneratedNames_decides hnames.1 d.models [] rfl List.nodup_nil List.nodup_nil

/-- **The check accepts exactly the well-formed documents, and every finding is true.** -/
theorem validate_accepts_exactly (d : Document) :
    (d.validate = .ok () ↔ d.WellFormed) ∧
      ∀ finding, d.validate = .error finding → finding.Describes d :=
  ⟨(validate_decides d).ok_iff, (validate_decides d).bad_of_error⟩

/-- Two names of classes that differ and lead to one file. -/
def sharedFile : Document := ⟨[⟨"APIKey", []⟩, ⟨"ApiKey", []⟩]⟩

theorem validate_sharedFile :
    sharedFile.validate = .error (.nameCollision "APIKey" "ApiKey" "api-key") ∧
      (Finding.nameCollision "APIKey" "ApiKey" "api-key").Describes sharedFile :=
  have h : sharedFile.validate = .error (.nameCollision "APIKey" "ApiKey" "api-key") := by rfl
  ⟨h, (validate_accepts_exactly sharedFile).2 _ h⟩

end Document

end SchemaClass
