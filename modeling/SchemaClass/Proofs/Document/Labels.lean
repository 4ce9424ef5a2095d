import Mathlib.Data.List.Count
import Mathlib.Data.List.Flatten
import SchemaClass.Proofs.Document.Declarations
import SchemaClass.Proofs.Document.Spelling
import SchemaClass.Proofs.Document.Validity
/-!
# Where the label of a finding points

A finding is about one declaration: the second of a name by an owner if the name is repeated, and
the first otherwise.  Its label is searched for by the name and its key.  The search does not know
owners, so a model, its fields and the fields of all other models are counted together, and the
label may point at somebody else's declaration of the same name.

* `Finding.blamed?`: the declaration that a finding is about;
* `Finding.pointed?`: the declaration with the same number among those of all owners;
* `label_of_finding`: the label points at the latter, which is the former exactly if nobody else has
  declared the name before;
* `label_misses_repeatedId`: a repeated field whose label points at its first declaration.
-/

namespace SchemaClass

open Outcome
open Document (IsColon valueSpan? valueSpans)

/-! ## 1. What a finding is about -/

namespace Finding

/-- Whose declaration a finding is about. -/
def owner : Finding → NameOwner
  | duplicateModel _ | nameCollision .. => .model
  | duplicateField m _ | missingType m _ => .field m
  | invalidName owner _ _ => owner
  | unknownRelation m f _ => .fieldType m f

/-- The name that a finding is about, as it is declared. -/
def name : Finding → String
  | duplicateModel name | duplicateField _ name | invalidName _ name _ | nameCollision _ name _
  | missingType _ name | unknownRelation _ _ name => name

/-- How many declarations of the name are passed before the one that a finding is about. -/
def number : Finding → Nat
  | duplicateModel _ | duplicateField .. => 1
  | _ => 0

/-- The declaration that a finding is about. -/
def blamed? (d : Document) (finding : Finding) : Option Declaration :=
  (d.declarations.filter fun x =>
    x.owner = finding.owner ∧ x.name = finding.name)[finding.number]?

/-- The declaration that is found instead if owners are not told apart. -/
def pointed? (d : Document) (finding : Finding) : Option Declaration :=
  (d.declarations.filter fun x =>
    x.owner.key = finding.owner.key ∧ x.name = finding.name)[finding.number]?

theorem locate?_eq (text : List Char) (finding : Finding) :
    finding.locate? text = valueSpan? text finding.owner.key finding.name finding.number := by
  cases finding with
  | invalidName owner name fault => cases owner <;> rfl
  | _ => rfl

end Finding

/-! ## 2. The declaration is there -/

namespace Document

variable {d : Document} {finding : Finding}

theorem owner_of_checkModelNames {seen : List String} {ms : List Model}
    (h : checkModelNames seen ms = .error finding) : finding.owner = .model := by
  induction ms generalizing seen with
  | nil => cases h
  | cons m ms ih =>
    rw [checkModelNames] at h
    split at h
    · cases h
      rfl
    · rcases bind_eq_error.mp h with h | ⟨_, -, h⟩
      · rw [checkModelName, checkIdentifier] at h
        split at h
        · cases h
          rfl
        · split at h
          · cases h
            rfl
          · cases h
      · exact ih h

/-- Fields are looked at only if the names of models do not repeat, so the owner of a field is one
model. -/
theorem models_nodup_of_finding (h : d.validate = .error finding)
    (howner : finding.owner ≠ .model) : (d.models.map (·.name)).Nodup := by
  rw [validate] at h
  rcases bind_eq_error.mp h with h | ⟨_, hnames, -⟩
  · exact absurd (owner_of_checkModelNames h) howner
  · exact (checkModelNames_decides.ok_iff.mp hnames).1

/-- The names of all models are among what is declared. -/
theorem models_sublist_declared (ms : List Model) :
    ((ms.map (·.name)).map (NameOwner.model, ·)).Sublist (ms.flatMap Model.declared) := by
  rw [List.map_map, List.map_eq_flatMap]
  exact List.Sublist.flatMap_right ms fun m _ => List.singleton_sublist.mpr List.mem_cons_self

theorem declared_sublist {ms : List Model} {m : Model} (hm : m ∈ ms) :
    m.declared.Sublist (ms.flatMap Model.declared) := by
  have h := (List.singleton_sublist.mpr hm).flatMap Model.declared
  rwa [List.flatMap_singleton] at h

/-- The names of the fields of a model are among what is declared. -/
theorem fields_sublist_declared {ms : List Model} {m : Model} (hm : m ∈ ms) :
    ((m.fields.map (·.name)).map (NameOwner.field m.name, ·)).Sublist
      (ms.flatMap Model.declared) := by
  refine List.Sublist.trans ?_ (declared_sublist hm)
  rw [List.map_map, List.map_eq_flatMap]
  exact (List.Sublist.flatMap_right m.fields fun f _ =>
    List.singleton_sublist.mpr List.mem_cons_self).cons _

theorem type_mem_declared {ms : List Model} {m : Model} {f : Field} {base : String} (hm : m ∈ ms)
    (hf : f ∈ m.fields) (hbase : f.baseType = some base) :
    (NameOwner.fieldType m.name f.name, base) ∈ ms.flatMap Model.declared := by
  refine (declared_sublist hm).subset (List.mem_cons_of_mem _ (List.mem_flatMap.mpr ⟨f, hf, ?_⟩))
  rw [Field.declared, hbase]
  exact List.mem_cons_of_mem _ List.mem_cons_self

/-- The names that an owner has are declared. -/
theorem mem_declared_of_owns {owner : NameOwner} {name : String} (h : owner.Owns d name) :
    (owner, name) ∈ d.models.flatMap Model.declared := by
  cases owner with
  | model =>
    obtain ⟨m, hm, rfl⟩ := h
    exact (models_sublist_declared d.models).subset
      (List.mem_map_of_mem (List.mem_map_of_mem hm))
  | field holder =>
    obtain ⟨m, hm, rfl, f, hf, rfl⟩ := h
    exact (fields_sublist_declared hm).subset (List.mem_map_of_mem (List.mem_map_of_mem hf))
  | fieldType holder part =>
    obtain ⟨m, hm, rfl, f, hf, rfl, hbase, -⟩ := h
    exact type_mem_declared hm hf hbase

/-- A name that is given twice by one owner is declared twice. -/
theorem two_le_count_declared {owner : NameOwner} {names : List String} {name : String}
    (h : (names.map (owner, ·)).Sublist (d.models.flatMap Model.declared))
    (htwo : 2 ≤ names.count name) :
    2 ≤ (d.models.flatMap Model.declared).count (owner, name) := by
  have hinj : Function.Injective (Prod.mk owner : String → NameOwner × String) :=
    fun _ _ he => (Prod.mk.inj he).2
  rw [← List.count_map_of_injective names (Prod.mk owner) hinj] at htwo
  exact htwo.trans (h.count_le _)

/-- A true finding is about a declaration of the document. -/
theorem number_lt_count (h : finding.Describes d) :
    finding.number < (d.models.flatMap Model.declared).count (finding.owner, finding.name) := by
  have hpos {owner : NameOwner} {name : String} (howns : owner.Owns d name) :
      0 < (d.models.flatMap Model.declared).count (owner, name) :=
    List.count_pos_iff.mpr (mem_declared_of_owns howns)
  cases finding with
  | duplicateModel name => exact two_le_count_declared (models_sublist_declared d.models) h
  | duplicateField model name =>
    obtain ⟨m, hm, rfl, htwo⟩ := h
    exact two_le_count_declared (fields_sublist_declared hm) htwo
  | invalidName owner name fault => exact hpos h.1
  | nameCollision first second generated =>
    have hsecond := h.2.1.subset (List.mem_cons_of_mem _ List.mem_cons_self)
    have howns : NameOwner.model.Owns d second := List.mem_map.mp hsecond
    exact hpos howns
  | missingType model field =>
    obtain ⟨m, hm, hname, f, hf, hfield, -⟩ := h
    have howns : (NameOwner.field model).Owns d field := ⟨m, hm, hname, f, hf, hfield⟩
    exact hpos howns
  | unknownRelation model field target =>
    obtain ⟨m, hm, hname, f, hf, hfield, hrelation, hbase, -⟩ := h
    have howns : (NameOwner.fieldType model field).Owns d target :=
      ⟨m, hm, hname, f, hf, hfield, hbase, Or.inr hrelation⟩
    exact hpos howns

theorem length_filter_declarations (owner : NameOwner) (name : String) :
    (d.declarations.filter fun x => x.owner = owner ∧ x.name = name).length
      = (d.models.flatMap Model.declared).count (owner, name) := by
  rw [← declarations_map, List.count, List.countP_map, List.countP_eq_length_filter]
  congr 2
  funext x
  rw [Bool.eq_iff_iff]
  simp

theorem exists_blamed (h : finding.Describes d) : ∃ blamed, finding.blamed? d = some blamed := by
  have hlt := number_lt_count h
  rw [← length_filter_declarations] at hlt
  exact ⟨_, List.getElem?_eq_getElem hlt⟩

/-! ## 3. The declaration that is found -/

theorem split_of_filter {α : Type} {p : α → Bool} {l : List α} {n : Nat} {a : α}
    (h : (l.filter p)[n]? = some a) :
    ∃ front back, l = front ++ a :: back ∧ (front.filter p).length = n := by
  induction l generalizing n with
  | nil => cases h
  | cons b l ih =>
    rw [List.filter_cons] at h
    split at h
    · next hb =>
      cases n with
      | zero =>
        cases h
        exact ⟨[], l, rfl, rfl⟩
      | succ n =>
        obtain ⟨front, back, rfl, hn⟩ := ih h
        exact ⟨b :: front, back, rfl, by rw [List.filter_cons, if_pos hb, List.length_cons, hn]⟩
    · next hb =>
      obtain ⟨front, back, rfl, hn⟩ := ih h
      exact ⟨b :: front, back, rfl, by rw [List.filter_cons, if_neg hb, hn]⟩

/-- What stands earlier in the text is what comes before in the list. -/
theorem earlier_iff {front back : List Declaration} {a : Declaration}
    (h : (front ++ a :: back).Pairwise (·.span.offset < ·.span.offset)) {x : Declaration} :
    (x ∈ front ++ a :: back ∧ x.span.offset < a.span.offset) ↔ x ∈ front := by
  obtain ⟨-, hback, hfront⟩ := List.pairwise_append.mp h
  constructor
  · rintro ⟨hx, hlt⟩
    rcases List.mem_append.mp hx with hx | hx
    · exact hx
    · rcases List.mem_cons.mp hx with rfl | hx
      · exact absurd hlt (lt_irrefl _)
      · exact absurd hlt (List.rel_of_pairwise_cons hback hx).not_gt
  · exact fun hx => ⟨List.mem_append_left _ hx, hfront x hx a List.mem_cons_self⟩

/-- Among declarations in the order of the text, the one with a number is the one with that number
of some kind exactly if all before the latter are of the kind. -/
theorem getElem?_eq_of_filter {l : List Declaration}
    (hl : l.Pairwise (·.span.offset < ·.span.offset)) {p : Declaration → Bool} {n : Nat}
    {a : Declaration} (h : (l.filter p)[n]? = some a) :
    ∃ b, l[n]? = some b ∧
      (b.span = a.span ↔ ∀ x ∈ l, x.span.offset < a.span.offset → p x = true) := by
  obtain ⟨front, back, rfl, hn⟩ := split_of_filter h
  have hle : n ≤ front.length := hn ▸ List.length_filter_le p front
  simp only [← and_imp, earlier_iff hl]
  -- either something of another kind stands before, and the number leads to it or its neighbours,
  -- or everything before is counted
  rcases hle.lt_or_eq with hlt | rfl
  · refine ⟨front[n], by rw [List.getElem?_append_left hlt, List.getElem?_eq_getElem hlt], ?_⟩
    constructor
    · intro hspan
      have hoffset := ((earlier_iff hl).mpr (List.getElem_mem hlt)).2
      rw [hspan] at hoffset
      exact absurd hoffset (lt_irrefl _)
    · intro hp
      rw [List.filter_eq_self.mpr hp] at hn
      exact absurd hn hlt.ne'
  · refine ⟨a, by rw [List.getElem?_append_right le_rfl, Nat.sub_self]; rfl, ?_⟩
    simp only [true_iff]
    exact List.length_filter_eq_length_iff.mp hn

/-- Every label lies on a declaration of the name, and on the one with the right number unless the
name looks like a colon. -/
theorem pointed_of_locate? (hplain : d.Unescaped) (hname : IsPlainText finding.name) :
    (∀ span, finding.locate? d.write = some span → ∃ x ∈ d.declarations,
      x.owner.key = finding.owner.key ∧ x.name = finding.name ∧ x.span = span) ∧
    (¬ IsColon finding.name.toList →
      finding.locate? d.write = (finding.pointed? d).map (·.span)) := by
  rw [Finding.locate?_eq, valueSpan?]
  constructor
  · intro span hspan
    have hmem := (valueSpans_write_sublist hplain finding.owner hname).subset
      (List.mem_of_getElem? hspan)
    obtain ⟨x, hx, rfl⟩ := List.mem_map.mp hmem
    obtain ⟨hx, hsame⟩ := List.mem_filter.mp hx
    obtain ⟨hkey, hname⟩ := of_decide_eq_true hsame
    exact ⟨x, hx, hkey, hname, rfl⟩
  · intro hcolon
    rw [valueSpans_write hplain finding.owner hname hcolon, List.getElem?_map]
    rfl

/-- The declaration that is pointed at is there, and it is the right one if no other owner has
declared the name before. -/
theorem exists_pointed {blamed : Declaration} (h : finding.blamed? d = some blamed) :
    ∃ pointed, finding.pointed? d = some pointed ∧
      (pointed.span = blamed.span ↔ ∀ x ∈ d.declarations,
        x.span.offset < blamed.span.offset → x.owner.key = finding.owner.key →
          x.name = finding.name → x.owner = finding.owner) := by
  have hsame : d.declarations.filter (fun x => x.owner = finding.owner ∧ x.name = finding.name)
      = (d.declarations.filter fun x =>
          x.owner.key = finding.owner.key ∧ x.name = finding.name).filter
            (·.owner = finding.owner) := by
    rw [List.filter_filter]
    refine List.filter_congr fun x _ => ?_
    rw [Bool.eq_iff_iff]
    simp only [Bool.and_eq_true, decide_eq_true_iff]
    constructor
    · rintro ⟨howner, hname⟩
      exact ⟨howner, congrArg NameOwner.key howner, hname⟩
    · rintro ⟨howner, -, hname⟩
      exact ⟨howner, hname⟩
  rw [Finding.blamed?, hsame] at h
  obtain ⟨pointed, hpointed, hiff⟩ :=
    getElem?_eq_of_filter ((declarations_pairwise d).filter _) h
  refine ⟨pointed, hpointed, hiff.trans ?_⟩
  simp only [List.mem_filter, decide_eq_true_iff]
  constructor
  · exact fun hall x hx hlt hkey hname => hall x ⟨hx, hkey, hname⟩ hlt
  · exact fun hall x hx hlt => hall x hx.1 hlt hx.2.1 hx.2.2

/-! ## 4. Labels -/

theorem plain_of_mem (h : d.Unescaped) {x : Declaration} (hx : x ∈ d.declarations) :
    IsPlainText x.name := by
  have hmem : (x.owner, x.name) ∈ d.models.flatMap Model.declared := by
    rw [← declarations_map]
    exact List.mem_map_of_mem hx
  obtain ⟨m, hm, hmem⟩ := List.mem_flatMap.mp hmem
  obtain ⟨hname, hfields⟩ := h m hm
  rcases List.mem_cons.mp hmem with he | hmem
  · exact (Prod.mk.inj he).2 ▸ hname
  · obtain ⟨f, hf, hmem⟩ := List.mem_flatMap.mp hmem
    rcases List.mem_cons.mp hmem with he | hmem
    · exact (Prod.mk.inj he).2 ▸ (hfields f hf).1
    · obtain ⟨base, hbase, he⟩ := List.mem_map.mp hmem
      exact (Prod.mk.inj he).2 ▸ (hfields f hf).2.1 base hbase

theorem blamed?_mem {blamed : Declaration} (h : finding.blamed? d = some blamed) :
    blamed ∈ d.declarations ∧ blamed.owner = finding.owner ∧ blamed.name = finding.name := by
  obtain ⟨hmem, hsame⟩ := List.mem_filter.mp (List.mem_of_getElem? h)
  exact ⟨hmem, of_decide_eq_true hsame⟩

theorem parse_write_of_error (h : d.validate = .error finding) (file : String) :
    parse file (String.ofList d.write)
      = .error (.refused file (String.ofList d.write) (.finding finding)) := by
  have hspelled : d.Spelled (String.ofList d.write).toList := by
    rw [String.toList_ofList]
    exact spelled_write d
  rw [parse, ofText_spelled hspelled, h]
  rfl

/-- **The label of a finding points at a declaration of its name**, the one with the number of the
declaration that the finding is about, but counted over all owners.  So it points at the latter
exactly if no other owner declares the name before, under the same key.  The owner of a field is one
model then.  A name that looks like a colon may have no label or one with another number. -/
theorem label_of_finding {d : Document} {finding : Finding} (hplain : d.Unescaped)
    (h : d.validate = .error finding) (file : String) :
    ∃ e blamed, parse file (String.ofList d.write) = .error e ∧
      finding.blamed? d = some blamed ∧
      (finding.owner ≠ .model → (d.models.map (·.name)).Nodup) ∧
      (∀ l ∈ e.labels, l.text = finding.label ∧ ∃ x ∈ d.declarations,
        x.owner.key = finding.owner.key ∧ x.name = finding.name ∧ x.span = l.span) ∧
      (¬ IsColon finding.name.toList → ∃ pointed, finding.pointed? d = some pointed ∧
        e.labels = [⟨finding.label, pointed.span⟩] ∧
        (pointed.span = blamed.span ↔ ∀ x ∈ d.declarations,
          x.span.offset < blamed.span.offset → x.owner.key = finding.owner.key →
            x.name = finding.name → x.owner = finding.owner)) := by
  obtain ⟨blamed, hblamed⟩ := exists_blamed ((validate_accepts_exactly d).2 finding h)
  obtain ⟨hmem, -, hname⟩ := blamed?_mem hblamed
  obtain ⟨hsound, hexact⟩ := pointed_of_locate? hplain (hname ▸ plain_of_mem hplain hmem)
  have hlabels : (SchemaError.refused file (String.ofList d.write) (.finding finding)).labels
      = ((finding.locate? d.write).map (⟨finding.label, ·⟩)).toList := by
    rw [SchemaError.labels, Problem.labels, String.toList_ofList]
    rfl
  refine ⟨_, blamed, parse_write_of_error h file, hblamed, models_nodup_of_finding h,
    fun l hl => ?_, fun hcolon => ?_⟩
  · rw [hlabels, Option.mem_toList] at hl
    obtain ⟨span, hspan, rfl⟩ := Option.map_eq_some_iff.mp hl
    exact ⟨rfl, hsound span hspan⟩
  · obtain ⟨pointed, hpointed, hiff⟩ := exists_pointed hblamed
    refine ⟨pointed, hpointed, ?_, hiff⟩
    rw [hlabels, hexact hcolon, hpointed]
    rfl

/-- A field that is repeated in a model, behind another model with such a field. -/
def repeatedId : Document := ⟨[
  { name := "User", fields := [{ name := "id", baseType := some "Int" }] },
  { name := "Post", fields := [
    { name := "id", baseType := some "Int" }, { name := "id", baseType := some "String" }] }]⟩

theorem label_of_finding_repeatedId :
    repeatedId.Unescaped ∧ repeatedId.validate = .error (.duplicateField "Post" "id") ∧
      ∃ e blamed, parse "schema.json" (String.ofList repeatedId.write) = .error e ∧
        (Finding.duplicateField "Post" "id").blamed? repeatedId = some blamed := by
  have hplain : repeatedId.Unescaped := by decide
  have hfinding : repeatedId.validate = .error (.duplicateField "Post" "id") := by rfl
  obtain ⟨e, blamed, hparse, hblamed, -⟩ := label_of_finding hplain hfinding "schema.json"
  exact ⟨hplain, hfinding, e, blamed, hparse, hblamed⟩

/-- **The label of a repeated field points at its first declaration**, since a field of another
model has been counted. -/
theorem label_misses_repeatedId :
    (Finding.duplicateField "Post" "id").blamed? repeatedId
      = some ⟨.field "Post", "id", ⟨188, 2⟩⟩ ∧
    ∃ e, parse "schema.json" (String.ofList repeatedId.write) = .error e ∧
      e.labels = [⟨"declared again here", ⟨130, 2⟩⟩] := by
  refine ⟨by decide, _, parse_write_of_error rfl "schema.json", ?_⟩
  rw [SchemaError.labels, Problem.labels, Problem.span?, String.toList_ofList]
  decide +kernel

end Document

end SchemaClass
