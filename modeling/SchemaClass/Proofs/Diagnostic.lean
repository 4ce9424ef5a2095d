import Mathlib.Data.List.Nodup
import SchemaClass.Diagnostic
import SchemaClass.Proofs.Naming
/-!
# What lints say of a field

Lints that look at fields look at one at a time, so what they say of a field is what they find in a
model that has no other.  A finding speaks of a field by two names with a dot between them.  No
identifier has a dot, so on a well-formed document a finding speaks of one field only, and it can be
said which fields there are findings for.

* `Model.alone`, `Lint.notes`: what a lint says of a field;
* `fieldwise_ofFields`: the findings of a document are those of its fields, in order;
* `notes_selfRelation`, `notes_relationKind`: what the lints of every run say of a field;
* `flatMap_check_standard`: all findings of a document; `severity_of_standard`: none is an error;
* `fieldLocation_injective`: which fields a finding can speak of;
* `found_selfRelation_iff`, `found_relationKind_iff`: the fields that a lint speaks of;
* `found_field_iff`: the fields that any lint speaks of.
-/

namespace SchemaClass

/-! ## 1. One field at a time -/

/-- A model with one of its fields only. -/
def Model.alone (m : Model) (f : Field) : Model := { m with fields := [f] }

namespace Lint

/-- What a lint says of one field of a model. -/
def notes (l : Lint) (m : Model) (f : Field) : List Diagnostic := l.check ⟨[m.alone f]⟩

/-- A lint that finds in a document what it says of the fields, one after the other. -/
def Fieldwise (l : Lint) : Prop :=
  ∀ d, l.check d = d.models.flatMap fun m => m.fields.flatMap (l.notes m)

section OfFields

variable {name : String} {check : Model → Field → Option Diagnostic}
  (h : ∀ m f, check (m.alone f) f = check m f)

include h

theorem notes_ofFields (m : Model) (f : Field) :
    (ofFields name check).notes m f = (check m f).toList := by
  have hone : (ofFields name check).notes m f = [f].filterMap (check (m.alone f)) :=
    List.flatMap_singleton ..
  rw [hone, List.filterMap_eq_flatMap_toList, List.flatMap_singleton, h]

theorem fieldwise_ofFields : (ofFields name check).Fieldwise := by
  intro d
  refine List.flatMap_congr fun m _ => ?_
  rw [List.filterMap_eq_flatMap_toList]
  exact List.flatMap_congr fun f _ => (notes_ofFields h m f).symm

end OfFields

/-! ## 2. What the lints of every run say -/

/-- A model has no fields. -/
def emptyNote (m : Model) : Diagnostic where
  severity := .warning
  phase := lintPhase
  message := s!"model '{m.name}' has no fields"
  location := some m.name

/-- What is said of a field. -/
def fieldNote (severity : Severity) (m : Model) (f : Field) (what : String) : Diagnostic where
  severity := severity
  phase := lintPhase
  message := s!"'{fieldLocation m f}' {what}"
  location := some (fieldLocation m f)

theorem fieldNote_injective {severity : Severity} {m : Model} {f : Field} {this that : String}
    (h : fieldNote severity m f this = fieldNote severity m f that) : this = that := by
  have hmessage := congrArg (fun d : Diagnostic => d.message.toList) h
  exact String.toList_inj.mp (by simpa [fieldNote, toString] using hmessage)

/-- A field relates to its own model. -/
def selfNote (m : Model) (f : Field) : Diagnostic :=
  fieldNote .info m f "relates to its own model; no import is generated"

/-- A field is said to be an object and has no relation name. -/
def notImportedNote (m : Model) (f : Field) : Diagnostic :=
  fieldNote .warning m f "is an object field without a relation name; its type is not imported"

/-- A field has a relation name and is not said to be an object. -/
def treatedNote (m : Model) (f : Field) : Diagnostic :=
  fieldNote .warning m f
    "has a relation name but is not an object field; treating it as a relation"

theorem notImportedNote_ne_treatedNote (m : Model) (f : Field) :
    notImportedNote m f ≠ treatedNote m f := by
  intro h
  exact absurd (fieldNote_injective h) (by decide)

theorem fieldwise_selfRelation : selfRelation.Fieldwise := fieldwise_ofFields fun _ _ => rfl

theorem fieldwise_relationKind : relationKind.Fieldwise := fieldwise_ofFields fun _ _ => rfl

theorem notes_selfRelation (m : Model) (f : Field) : selfRelation.notes m f =
    if f.isRelation && f.baseType == some m.name then [selfNote m f] else [] := by
  rw [selfRelation, notes_ofFields fun _ _ => rfl]
  dsimp only
  split
  · simp [selfNote, fieldNote, String.append_assoc, toString]
  · rfl

theorem notes_relationKind (m : Model) (f : Field) : relationKind.notes m f =
    if (f.kind == .object) != f.isRelation then
      [if f.isRelation then treatedNote m f else notImportedNote m f]
    else [] := by
  rw [relationKind, notes_ofFields fun _ _ => rfl]
  cases f.kind <;> cases f.isRelation <;>
    simp [treatedNote, notImportedNote, fieldNote, String.append_assoc, toString]

end Lint

/-- The findings of a document: of its models without fields, of the fields that relate to their
own model, and of those whose kind and relation name disagree. -/
def Document.findings (d : Document) : List Diagnostic :=
  (d.models.filter (·.fields.isEmpty)).map Lint.emptyNote ++
    (d.models.flatMap fun m => m.fields.flatMap (Lint.selfRelation.notes m)) ++
    d.models.flatMap fun m => m.fields.flatMap (Lint.relationKind.notes m)

theorem Document.flatMap_check_standard (d : Document) :
    Lint.standard.flatMap (·.check d) = d.findings := by
  rw [findings, ← Lint.fieldwise_selfRelation d, ← Lint.fieldwise_relationKind d,
    List.append_assoc]
  simp only [Lint.standard, List.flatMap_cons, List.flatMap_nil, List.append_nil]
  rfl

/-- **No lint finds an error.** -/
theorem Lint.severity_of_standard (d : Document) :
    ∀ x ∈ standard.flatMap (·.check d), x.severity ≠ .error := by
  rw [Document.flatMap_check_standard]
  intro x hx
  rcases List.mem_append.mp hx with hx | hx
  rcases List.mem_append.mp hx with hx | hx
  · obtain ⟨m, -, rfl⟩ := List.mem_map.mp hx
    exact nofun
  · obtain ⟨m, -, hx⟩ := List.mem_flatMap.mp hx
    obtain ⟨f, -, hx⟩ := List.mem_flatMap.mp hx
    rw [notes_selfRelation, List.mem_ite_nil_right, List.mem_singleton] at hx
    rw [hx.2]
    exact nofun
  · obtain ⟨m, -, hx⟩ := List.mem_flatMap.mp hx
    obtain ⟨f, -, hx⟩ := List.mem_flatMap.mp hx
    rw [notes_relationKind, List.mem_ite_nil_right, List.mem_singleton] at hx
    rw [hx.2]
    split <;> exact nofun

/-- A document has a finding for a place in it. -/
def Lint.Found (l : Lint) (d : Document) (location : String) : Prop :=
  ∃ x ∈ l.check d, x.location = some location

namespace Lint

/-! ## 3. Locations -/

theorem toList_fieldLocation (m : Model) (f : Field) :
    (fieldLocation m f).toList = m.name.toList ++ '.' :: f.name.toList := by
  simp [fieldLocation]

/-- No location of a field is the name of a model. -/
theorem fieldLocation_ne {m : Model} {f : Field} {name : String} (h : '.' ∉ name.toList) :
    fieldLocation m f ≠ name := by
  rintro rfl
  rw [toList_fieldLocation] at h
  exact h (by simp)

/-- What stands in front of the first dot. -/
theorem takeWhile_append_dot {front behind : List Char} (h : '.' ∉ front) :
    (front ++ '.' :: behind).takeWhile (· != '.') = front := by
  have hfront : ∀ c ∈ front, (c != '.') = true := by
    intro c hc
    rw [bne_iff_ne]
    rintro rfl
    exact h hc
  rw [List.takeWhile_append_of_pos hfront, List.takeWhile_cons_of_neg (by decide), List.append_nil]

/-- **A location is read up to its dot.** -/
theorem fieldLocation_injective {m n : Model} {f g : Field} (hm : '.' ∉ m.name.toList)
    (hn : '.' ∉ n.name.toList) (h : fieldLocation m f = fieldLocation n g) :
    m.name = n.name ∧ f.name = g.name := by
  have hlists := congrArg String.toList h
  rw [toList_fieldLocation, toList_fieldLocation] at hlists
  have hfront := congrArg (List.takeWhile (· != '.')) hlists
  rw [takeWhile_append_dot hm, takeWhile_append_dot hn] at hfront
  rw [hfront] at hlists
  have hbehind := List.append_cancel_left hlists
  exact ⟨String.toList_inj.mp hfront, String.toList_inj.mp (List.cons.inj hbehind).2⟩

/-! ## 4. Places of findings -/

/-- The places of a lint that looks at fields. -/
theorem found_iff_of_fieldwise {l : Lint} (hl : l.Fieldwise) {d : Document} {location : String} :
    l.Found d location ↔ ∃ m ∈ d.models, ∃ f ∈ m.fields, ∃ x ∈ l.notes m f,
      x.location = some location := by
  rw [Found, hl d]
  constructor
  · rintro ⟨x, hx, hloc⟩
    obtain ⟨m, hm, hx⟩ := List.mem_flatMap.mp hx
    obtain ⟨f, hf, hx⟩ := List.mem_flatMap.mp hx
    exact ⟨m, hm, f, hf, x, hx, hloc⟩
  · rintro ⟨m, hm, f, hf, x, hx, hloc⟩
    exact ⟨x, List.mem_flatMap.mpr ⟨m, hm, List.mem_flatMap.mpr ⟨f, hf, hx⟩⟩, hloc⟩

/-- A field relates to its own model. -/
def IsSelfRelation (m : Model) (f : Field) : Prop :=
  f.isRelation = true ∧ f.baseType = some m.name

/-- The kind of a field says that it is a relation, and its relation name that it is none, or the
other way round. -/
def Disagrees (f : Field) : Prop := f.kind = .object ↔ f.isRelation = false

theorem found_selfRelation_iff {d : Document} {location : String} :
    selfRelation.Found d location ↔
      ∃ m ∈ d.models, ∃ f ∈ m.fields, IsSelfRelation m f ∧ fieldLocation m f = location := by
  rw [found_iff_of_fieldwise fieldwise_selfRelation]
  refine exists_congr fun m => and_congr_right fun _ => exists_congr fun f =>
    and_congr_right fun _ => ?_
  simp [notes_selfRelation, IsSelfRelation, selfNote, fieldNote]

theorem found_relationKind_iff {d : Document} {location : String} :
    relationKind.Found d location ↔
      ∃ m ∈ d.models, ∃ f ∈ m.fields, Disagrees f ∧ fieldLocation m f = location := by
  rw [found_iff_of_fieldwise fieldwise_relationKind]
  refine exists_congr fun m => and_congr_right fun _ => exists_congr fun f =>
    and_congr_right fun _ => ?_
  rw [notes_relationKind, Disagrees]
  cases f.kind <;> cases f.isRelation <;> simp [notImportedNote, treatedNote, fieldNote]

theorem found_emptyModel {d : Document} {location : String} (h : emptyModel.Found d location) :
    ∃ m ∈ d.models, m.name = location := by
  obtain ⟨x, hx, hloc⟩ := h
  obtain ⟨m, hm, rfl⟩ := List.mem_map.mp hx
  exact ⟨m, (List.mem_filter.mp hm).1, Option.some.inj hloc⟩

end Lint

/-! ## 5. Fields of a well-formed document -/

namespace Document

variable {d : Document} (hd : d.WellFormed)

include hd

theorem dot_notMem_name {m : Model} (hm : m ∈ d.models) : '.' ∉ m.name.toList := by
  intro hdot
  have hcont := Naming.continues_of_spelled (hd.names_usable m hm).2 '.' hdot
  revert hcont
  unfold ContinuesIdentifier
  decide

/-- A location stands for one field. -/
theorem eq_of_fieldLocation_eq {m n : Model} {f g : Field} (hm : m ∈ d.models) (hn : n ∈ d.models)
    (hf : f ∈ m.fields) (hg : g ∈ n.fields)
    (h : Lint.fieldLocation m f = Lint.fieldLocation n g) : m = n ∧ f = g := by
  obtain ⟨hname, hfield⟩ := Lint.fieldLocation_injective (dot_notMem_name hd hm)
    (dot_notMem_name hd hn) h
  obtain rfl : m = n := List.inj_on_of_nodup_map hd.models_nodup hm hn hname
  exact ⟨rfl, List.inj_on_of_nodup_map (hd.fields_nodup m hm) hf hg hfield⟩

/-- **The fields that there are findings for.** -/
theorem found_field_iff {m : Model} {f : Field} (hm : m ∈ d.models) (hf : f ∈ m.fields) :
    (∃ l ∈ Lint.standard, l.Found d (Lint.fieldLocation m f)) ↔
      Lint.IsSelfRelation m f ∨ Lint.Disagrees f := by
  constructor
  · rintro ⟨l, hl, hfound⟩
    rcases List.mem_cons.mp hl with rfl | hl
    · obtain ⟨n, hn, hname⟩ := Lint.found_emptyModel hfound
      exact absurd hname.symm (Lint.fieldLocation_ne (dot_notMem_name hd hn))
    rcases List.mem_pair.mp hl with rfl | rfl
    · obtain ⟨n, hn, g, hg, h, hloc⟩ := Lint.found_selfRelation_iff.mp hfound
      obtain ⟨rfl, rfl⟩ := eq_of_fieldLocation_eq hd hn hm hg hf hloc
      exact Or.inl h
    · obtain ⟨n, hn, g, hg, h, hloc⟩ := Lint.found_relationKind_iff.mp hfound
      obtain ⟨rfl, rfl⟩ := eq_of_fieldLocation_eq hd hn hm hg hf hloc
      exact Or.inr h
  · rintro (h | h)
    · exact ⟨Lint.selfRelation, by simp [Lint.standard],
        Lint.found_selfRelation_iff.mpr ⟨m, hm, f, hf, h, rfl⟩⟩
    · exact ⟨Lint.relationKind, by simp [Lint.standard],
        Lint.found_relationKind_iff.mpr ⟨m, hm, f, hf, h, rfl⟩⟩

end Document

end SchemaClass
