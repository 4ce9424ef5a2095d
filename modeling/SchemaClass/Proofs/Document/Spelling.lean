import SchemaClass.Document.Text
import SchemaClass.Proofs.Json.Writing
/-!
# Spellings of a document

A document may be spelled in many ways.  Its models stand at the top or in an envelope; keys come
in any order, with keys among them that nobody knows; a kind has its name or another one, and
whatever says no more than what holds without it may be left out.

* `fieldColumns`, `modelColumns`, `datamodelColumns`, `envelopeColumns`: the keys of the form;
* `Document.Spelled`: the texts that spell a document;
* `ofText_spelled`: each of them is read as the document, which is then checked;
* `parse_of_spelled`: a valid document comes back from all of its spellings, and from the one in
  which it is written.
-/

namespace SchemaClass

open Json Outcome

/-! ## 1. The keys of the form -/

/-- The names of a kind. -/
def FieldKind.spelledAs : FieldKind → List String
  | .scalar => ["scalar", "primitive"]
  | .enum => ["enum"]
  | .object => ["object", "relation"]

theorem FieldKind.ofSpelling?_spelledAs {kind : FieldKind} {name : String}
    (h : name ∈ kind.spelledAs) : FieldKind.ofSpelling? name = some kind := by
  have hall : ∀ name ∈ kind.spelledAs, FieldKind.ofSpelling? name = some kind := by
    cases kind <;> decide
  exact hall name h

/-- How a field may be written. -/
def fieldColumns : List (Column Field) := [
  ⟨"name", fun f => SpellsText f.name, fun _ => False⟩,
  ⟨"kind", fun f text => ∃ name ∈ f.kind.spelledAs, SpellsText name text,
    fun f => f.kind = .scalar⟩,
  ⟨"type", fun f => SpellsOption SpellsText f.baseType, fun f => f.baseType = none⟩,
  ⟨"isList", fun f text => text = spelledBoolean f.isList, fun f => f.isList = false⟩,
  ⟨"relationName", fun f => SpellsOption SpellsText f.relationName,
    fun f => f.relationName = none⟩]

/-- How a model may be written. -/
def modelColumns : List (Column Model) := [
  ⟨"name", fun m => SpellsText m.name, fun _ => False⟩,
  ⟨"fields", fun m => SpellsList (SpellsObject fieldColumns) m.fields, fun m => m.fields = []⟩]

/-- The spellings of a list of models. -/
def SpellsModels : List Model → List Char → Prop := SpellsList (SpellsObject modelColumns)

/-- How the envelope around models may be written. -/
def datamodelColumns : List (Column (List Model)) :=
  [⟨"models", SpellsModels, fun models => models = []⟩]

/-- How the top of a text may be written. -/
def envelopeColumns : List (Column Envelope) := [
  ⟨"models", fun e => SpellsOption SpellsModels e.models, fun e => e.models = none⟩,
  ⟨"datamodel", fun e => SpellsOption (SpellsObject datamodelColumns) e.datamodel,
    fun e => e.datamodel = none⟩]

/-- The texts that spell a document, with its models at the top or in an envelope. -/
inductive Document.Spelled (d : Document) : List Char → Prop where
  | top {p : Padded} (h : SpellsObject envelopeColumns ⟨some d.models, none⟩ p.text) :
    Spelled d p.spelled
  | envelope {p : Padded} (h : SpellsObject envelopeColumns ⟨none, some d.models⟩ p.text) :
    Spelled d p.spelled

/-! ## 2. Reading -/

/-- The draft of a field of which some keys have been met. -/
def Field.drafted (f : Field) (keys : List String) : Field.Draft where
  name := met keys "name" f.name
  kind := met keys "kind" f.kind
  baseType := met keys "type" f.baseType
  isList := met keys "isList" f.isList
  relationName := met keys "relationName" f.relationName

/-- The keys of a field and what they fill in. -/
theorem slots_field (d : Field.Draft) :
    fieldRecord.slot d "name" = .of d.name readText (fun v => { d with name := some v }) ∧
    fieldRecord.slot d "kind" = .of d.kind (readVariant FieldKind.spellings FieldKind.ofSpelling?)
      (fun v => { d with kind := some v }) ∧
    fieldRecord.slot d "type" = .of d.baseType (readOption readText)
      (fun v => { d with baseType := some v }) ∧
    fieldRecord.slot d "isList" = .of d.isList readBoolean (fun v => { d with isList := some v }) ∧
    fieldRecord.slot d "relationName" = .of d.relationName (readOption readText)
      (fun v => { d with relationName := some v }) := by
  refine ⟨?_, ?_, ?_, ?_, ?_⟩ <;> simp [fieldRecord, Field.Draft.slot]

theorem fits_field : Fits fieldRecord fieldColumns Field.drafted where
  empty f := rfl
  known f keys := by
    obtain ⟨hname, hkind, htype, hlist, hrelation⟩ := slots_field (f.drafted keys)
    simp only [fieldColumns, List.forall_mem_cons]
    refine ⟨fun hkey => ?_, fun hkey => ?_, fun hkey => ?_, fun hkey => ?_, fun hkey => ?_, nofun⟩
    · exact free_of_not_met hkey hname (by simp [Field.drafted, met]) fun _ => reads_text
    · refine free_of_not_met hkey hkind (by simp [Field.drafted, met]) fun text h => ?_
      obtain ⟨name, hname, htext⟩ := h
      exact reads_variant (FieldKind.ofSpelling?_spelledAs hname) htext
    · exact free_of_not_met hkey htype (by simp [Field.drafted, met]) fun _ => reads_optionText
    · exact free_of_not_met hkey hlist (by simp [Field.drafted, met])
        fun _ h => h ▸ reads_boolean f.isList
    · exact free_of_not_met hkey hrelation (by simp [Field.drafted, met]) fun _ => reads_optionText
  unknown f keys key hnone := by
    simp only [fieldColumns, List.forall_mem_cons] at hnone
    obtain ⟨hname, hkind, htype, hlist, hrelation, -⟩ := hnone
    exact (if_neg hname).trans ((if_neg hkind).trans ((if_neg htype).trans
      ((if_neg hlist).trans (if_neg hrelation))))
  finish f keys hmissing := by
    simp only [fieldColumns, List.forall_mem_cons] at hmissing
    obtain ⟨hname, hkind, htype, hlist, hrelation, -⟩ := hmissing
    have hmet : (f.drafted keys).name = some f.name :=
      met_of_mem (Decidable.not_not.mp hname) f.name
    have hfinish : fieldRecord.finish (f.drafted keys) = .ok
        { name := f.name
          kind := (met keys "kind" f.kind).getD .scalar
          baseType := (met keys "type" f.baseType).join
          isList := (met keys "isList" f.isList).getD false
          relationName := (met keys "relationName" f.relationName).join } := by
      change Field.Draft.finish (f.drafted keys) = _
      rw [Field.Draft.finish, hmet]
      rfl
    rw [hfinish, getD_met hkind, join_met htype, getD_met hlist, join_met hrelation]

/-- The draft of a model of which some keys have been met. -/
def Model.drafted (m : Model) (keys : List String) : Model.Draft where
  name := met keys "name" m.name
  fields := met keys "fields" m.fields

theorem slots_model (d : Model.Draft) :
    modelRecord.slot d "name" = .of d.name readText (fun v => { d with name := some v }) ∧
    modelRecord.slot d "fields" = .of d.fields (readList (readRecord fieldRecord))
      (fun v => { d with fields := some v }) := by
  refine ⟨?_, ?_⟩ <;> simp [modelRecord]

theorem fits_model : Fits modelRecord modelColumns Model.drafted where
  empty m := rfl
  known m keys := by
    obtain ⟨hname, hfields⟩ := slots_model (m.drafted keys)
    simp only [modelColumns, List.forall_mem_cons]
    refine ⟨fun hkey => ?_, fun hkey => ?_, nofun⟩
    · exact free_of_not_met hkey hname (by simp [Model.drafted, met]) fun _ => reads_text
    · exact free_of_not_met hkey hfields (by simp [Model.drafted, met]) fun _ =>
        reads_list fun _ _ h => ⟨h.startsValue, reads_object fits_field h⟩
  unknown m keys key hnone := by
    simp only [modelColumns, List.forall_mem_cons] at hnone
    obtain ⟨hname, hfields, -⟩ := hnone
    exact (if_neg hname).trans (if_neg hfields)
  finish m keys hmissing := by
    simp only [modelColumns, List.forall_mem_cons] at hmissing
    obtain ⟨hname, hfields, -⟩ := hmissing
    have hmet : (m.drafted keys).name = some m.name :=
      met_of_mem (Decidable.not_not.mp hname) m.name
    have hfinish : modelRecord.finish (m.drafted keys)
        = .ok { name := m.name, fields := (met keys "fields" m.fields).getD [] } := by
      rw [modelRecord]
      dsimp only
      rw [hmet]
      rfl
    rw [hfinish, getD_met hfields]

theorem reads_models {models : List Model} {text : List Char} (h : SpellsModels models text) :
    Reads readModels models text :=
  reads_list (fun _ _ h => ⟨h.startsValue, reads_object fits_model h⟩) h

theorem slot_datamodel (d : Option (List Model)) :
    datamodelRecord.slot d "models" = .of d readModels some := by
  simp [datamodelRecord]

/-- What has been read of the envelope around models when some keys have been met. -/
def draftedModels (models : List Model) (keys : List String) : Option (List Model) :=
  met keys "models" models

theorem fits_datamodel : Fits datamodelRecord datamodelColumns draftedModels where
  empty models := rfl
  known models keys := by
    simp only [datamodelColumns, List.forall_mem_cons]
    refine ⟨fun hkey => ?_, nofun⟩
    exact free_of_not_met hkey (slot_datamodel _) (met_of_mem List.mem_cons_self models).symm
      fun _ => reads_models
  unknown models keys key hnone := by
    simp only [datamodelColumns, List.forall_mem_cons] at hnone
    exact if_neg hnone.1
  finish models keys hmissing := by
    simp only [datamodelColumns, List.forall_mem_cons] at hmissing
    exact congrArg Except.ok (getD_met hmissing.1)

/-- The draft of an envelope of which some keys have been met. -/
def Envelope.drafted (e : Envelope) (keys : List String) : Envelope.Draft where
  models := met keys "models" e.models
  datamodel := met keys "datamodel" e.datamodel

theorem slots_envelope (d : Envelope.Draft) :
    envelopeRecord.slot d "models" = .of d.models (readOption readModels)
      (fun v => { d with models := some v }) ∧
    envelopeRecord.slot d "datamodel" = .of d.datamodel (readOption (readRecord datamodelRecord))
      (fun v => { d with datamodel := some v }) := by
  refine ⟨?_, ?_⟩ <;> simp [envelopeRecord]

theorem fits_envelope : Fits envelopeRecord envelopeColumns Envelope.drafted where
  empty e := rfl
  known e keys := by
    obtain ⟨hmodels, hdatamodel⟩ := slots_envelope (e.drafted keys)
    simp only [envelopeColumns, List.forall_mem_cons]
    refine ⟨fun hkey => ?_, fun hkey => ?_, nofun⟩
    · refine free_of_not_met hkey hmodels (by simp [Envelope.drafted, met]) fun text h => ?_
      cases hvalue : e.models with
      | none =>
        rw [hvalue] at h
        exact h ▸ reads_null
      | some models =>
        rw [hvalue] at h
        obtain ⟨xs, rfl⟩ := SpellsList.head h
        exact reads_some rfl (by decide) (reads_models h)
    · refine free_of_not_met hkey hdatamodel (by simp [Envelope.drafted, met]) fun text h => ?_
      cases hvalue : e.datamodel with
      | none =>
        rw [hvalue] at h
        exact h ▸ reads_null
      | some models =>
        rw [hvalue] at h
        obtain ⟨xs, rfl⟩ := SpellsObject.head h
        exact reads_some rfl (by decide) (reads_object fits_datamodel h)
  unknown e keys key hnone := by
    simp only [envelopeColumns, List.forall_mem_cons] at hnone
    obtain ⟨hmodels, hdatamodel, -⟩ := hnone
    exact (if_neg hmodels).trans (if_neg hdatamodel)
  finish e keys hmissing := by
    simp only [envelopeColumns, List.forall_mem_cons] at hmissing
    obtain ⟨hmodels, hdatamodel, -⟩ := hmissing
    have hfinish : envelopeRecord.finish (e.drafted keys) = .ok
        ⟨(met keys "models" e.models).join, (met keys "datamodel" e.datamodel).join⟩ := rfl
    rw [hfinish, join_met hmodels, join_met hdatamodel]

namespace Document

variable {d : Document}

theorem readEnvelope_spelled {text : List Char} (h : d.Spelled text) :
    ∃ e, readEnvelope text = .ok e ∧ e.document = .ok d := by
  cases h with
  | top h => exact ⟨_, readWhole_spelled (reads_object fits_envelope h), rfl⟩
  | envelope h => exact ⟨_, readWhole_spelled (reads_object fits_envelope h), rfl⟩

/-- **Every spelling of a document is read as the document**, which is checked then. -/
theorem ofText_spelled {text : String} (h : d.Spelled text.toList) :
    ofText text = (d.validate.mapError .finding).map fun _ => d := by
  obtain ⟨e, hread, hdocument⟩ := readEnvelope_spelled h
  have hform : (readEnvelope text.toList).mapError Problem.document = .ok e := by rw [hread]; rfl
  have hplace : e.document.mapError (Problem.rejected · none) = .ok d := by rw [hdocument]; rfl
  cases hvalid : d.validate with
  | ok =>
    exact bind_eq_ok.mpr ⟨e, hform, bind_eq_ok.mpr ⟨d, hplace,
      bind_eq_ok.mpr ⟨(), by rw [hvalid]; rfl, rfl⟩⟩⟩
  | error finding =>
    exact bind_eq_error.mpr (Or.inr ⟨e, hform, bind_eq_error.mpr (Or.inr ⟨d, hplace,
      bind_eq_error.mpr (Or.inl (by rw [hvalid]; rfl))⟩)⟩)

/-! ## 3. Writing -/

theorem spellsObject_field (f : Field) : SpellsObject fieldColumns f f.write := by
  have hkind : ∃ name ∈ f.kind.spelledAs, SpellsText name (writeText f.kind.name) :=
    ⟨f.kind.name, by cases f.kind <;> decide, spellsText_writeText _⟩
  have htype : SpellsOption SpellsText f.baseType (writeOption writeText f.baseType) :=
    spellsOption_writeOption spellsText_writeText f.baseType
  refine spellsObject_writeObject (describes_bareMember ?_ ?_ ?_ ?_)
  · cases f.relationName <;> simp
  · cases f.relationName <;> simp [fieldColumns]
  · cases hrelation : f.relationName with
    | none => simpa [fieldColumns, spellsText_writeText, writeBoolean_eq] using ⟨hkind, htype⟩
    | some name =>
      simpa [fieldColumns, spellsText_writeText, writeBoolean_eq, hrelation, SpellsOption]
        using ⟨hkind, htype⟩
  · cases hrelation : f.relationName <;> simp [fieldColumns, hrelation]

theorem spellsObject_model (m : Model) : SpellsObject modelColumns m m.write := by
  have hfields : SpellsList (SpellsObject fieldColumns) m.fields (writeList Field.write m.fields) :=
    spellsList_writeList fun f _ => spellsObject_field f
  refine spellsObject_writeObject (describes_bareMember ?_ ?_ ?_ ?_)
  · simp
  · simp [modelColumns]
  · simpa [modelColumns, spellsText_writeText] using hfields
  · simp [modelColumns]

/-- **A document is written as one of its spellings.** -/
theorem spelled_write (d : Document) : d.Spelled d.write := by
  have hmodels : SpellsModels d.models (writeList Model.write d.models) :=
    spellsList_writeList fun m _ => spellsObject_model m
  have hobject : SpellsObject envelopeColumns ⟨some d.models, none⟩ d.write := by
    refine spellsObject_writeObject (describes_bareMember ?_ ?_ ?_ ?_)
    · simp
    · simp [envelopeColumns]
    · simpa [envelopeColumns, SpellsOption] using hmodels
    · simp [envelopeColumns]
  rw [← spelled_bare d.write]
  exact .top hobject

/-- **A valid document comes back from every text that spells it**, whichever place holds its
models, however its keys are ordered and its strings escaped, and whatever it says besides.  So it
comes back from the text in which it is written. -/
theorem parse_of_spelled {d : Document} (h : d.validate = .ok ()) (file : String) :
    (∀ text : String, d.Spelled text.toList → parse file text = .ok d) ∧
      parse file (String.ofList d.write) = .ok d := by
  have hparse : ∀ text : String, d.Spelled text.toList → parse file text = .ok d := by
    intro text hspelled
    rw [parse, ofText_spelled hspelled, h]
    rfl
  refine ⟨hparse, hparse _ ?_⟩
  rw [String.toList_ofList]
  exact spelled_write d

/-! ### A shuffled spelling

The models stand in an envelope behind a note that is no key of a document, the keys of the model
and of its field come in another order, and some characters are escaped. -/

/-- A member without blanks, whose key is spelled in some way. -/
def respelled (name key : String) (value : List Char) : String × Member :=
  (name, ⟨.none, key.toList, .none, bare value⟩)

/-- An object of some members. -/
def objectOf (members : List (String × Member)) : List Char :=
  '\x7b' :: (between .none (members.map (·.2.spelled)) ++ ['\x7d'])

/-- A list of one element. -/
def listOf (element : List Char) : List Char := '[' :: (between .none [element] ++ [']'])

/-- A field with its keys in another order and with escapes. -/
def shuffledField : List (String × Member) :=
  [respelled "type" "type" "\"\\u0049nt\"".toList, respelled "name" "na\\u006de" "\"id\"".toList,
    respelled "kind" "kind" "\"primitive\"".toList]

/-- A model behind its fields. -/
def shuffledModel : List (String × Member) :=
  [respelled "fields" "fields" (listOf (objectOf shuffledField)),
    respelled "name" "name" "\"User\"".toList]

/-- An envelope behind a note that nobody knows. -/
def shuffledDocument : List (String × Member) :=
  [respelled "note" "note" (listOf "\"\\ud800\"".toList),
    respelled "datamodel" "datamodel"
      (objectOf [respelled "models" "models" (listOf (objectOf shuffledModel))])]

theorem describes_shuffledField :
    Describes fieldColumns { name := "id", baseType := some "Int" } shuffledField where
  keys := by
    simp only [shuffledField, respelled, List.forall_mem_cons]
    refine ⟨spells_plain (by decide), ?_, spells_plain (by decide), nofun⟩
    exact .plain (by decide) (.plain (by decide) (.number rfl (spells_plain (by decide))))
  fresh _ _ _ _ _ := List.not_mem_nil
  once := by decide
  known := by
    have hchars : Spells "Int".toList "\\u0049nt".toList :=
      .number rfl (spells_plain (by decide))
    have htype : SpellsText "Int" "\"\\u0049nt\"".toList := .mk hchars
    have hname : SpellsText "id" "\"id\"".toList := .mk (spells_plain (by decide))
    have hkind : ∃ name ∈ FieldKind.scalar.spelledAs, SpellsText name "\"primitive\"".toList :=
      ⟨"primitive", by decide, .mk (spells_plain (by decide))⟩
    simpa [shuffledField, respelled, fieldColumns, bare] using ⟨htype, hname, hkind⟩
  unknown := by simp [shuffledField, respelled, fieldColumns]
  missing := by simp [shuffledField, respelled, fieldColumns]

theorem spellsList_listOf {α : Type} {spells : α → List Char → Prop} {a : α} {text : List Char}
    (h : spells a text) : SpellsList spells [a] (listOf text) := by
  have hlist : SpellsList spells [a] ('[' :: (between .none [(bare text).spelled] ++ [']'])) :=
    .mk .none [(a, bare text)] (by simpa [bare] using h)
  rwa [spelled_bare] at hlist

theorem isValue_listOf {text : List Char} (h : IsValue text) : IsValue (listOf text) := by
  have hlist : IsValue ('[' :: (between .none ([bare text].map (·.spelled)) ++ [']'])) :=
    .list (by simpa [bare] using h)
  rwa [List.map_singleton, spelled_bare] at hlist

/-- One model with one field. -/
def userDocument : Document :=
  ⟨[{ name := "User", fields := [{ name := "id", baseType := some "Int" }] }]⟩

theorem spellsModels_shuffled :
    SpellsModels userDocument.models (listOf (objectOf shuffledModel)) := by
  refine spellsList_listOf (.mk .none _ ⟨⟨?_, ?_, ?_, ?_, ?_⟩, ?_⟩)
  · simp only [shuffledModel, respelled, List.forall_mem_cons]
    exact ⟨spells_plain (by decide), spells_plain (by decide), nofun⟩
  · exact fun _ _ _ _ _ => List.not_mem_nil
  · decide
  · have hfields : SpellsList (SpellsObject fieldColumns)
        [{ name := "id", baseType := some "Int" }] (listOf (objectOf shuffledField)) :=
      spellsList_listOf (.mk .none _ describes_shuffledField)
    have hname : SpellsText "User" "\"User\"".toList := .mk (spells_plain (by decide))
    simpa [shuffledModel, respelled, modelColumns, bare] using ⟨hfields, hname⟩
  · simp [shuffledModel, respelled, modelColumns]
  · simp [shuffledModel, respelled, modelColumns]

theorem spellsObject_shuffled :
    SpellsObject envelopeColumns ⟨none, some userDocument.models⟩ (objectOf shuffledDocument) := by
  have hdatamodel : SpellsObject datamodelColumns userDocument.models
      (objectOf [respelled "models" "models" (listOf (objectOf shuffledModel))]) := by
    refine .mk .none _ ⟨⟨?_, ?_, ?_, ?_, ?_⟩, ?_⟩
    · simp only [respelled, List.forall_mem_cons]
      exact ⟨spells_plain (by decide), nofun⟩
    · exact fun _ _ _ _ _ => List.not_mem_nil
    · decide
    · simpa [respelled, datamodelColumns, bare] using spellsModels_shuffled
    · simp [respelled, datamodelColumns]
    · simp [respelled, datamodelColumns]
  refine .mk .none _ ⟨⟨?_, ?_, ?_, ?_, ?_⟩, ?_⟩
  · simp only [shuffledDocument, respelled, List.forall_mem_cons]
    exact ⟨spells_plain (by decide), spells_plain (by decide), nofun⟩
  · exact fun _ _ _ _ _ => List.not_mem_nil
  · decide
  · simpa [shuffledDocument, respelled, envelopeColumns, bare, SpellsOption] using hdatamodel
  · have hnote : IsValue (listOf "\"\\ud800\"".toList) := by
      have hhalf : IsChars "\\ud800".toList := .number rfl .nil
      exact isValue_listOf (.string hhalf)
    simpa [shuffledDocument, respelled, envelopeColumns, bare] using hnote
  · simp [shuffledDocument, respelled, envelopeColumns]

/-- The text of all that. -/
def shuffledText : String :=
  "\x7b\"note\":[\"\\ud800\"],\"datamodel\":\x7b\"models\":[\x7b\"fields\":"
    ++ "[\x7b\"type\":\"\\u0049nt\",\"na\\u006de\":\"id\",\"kind\":\"primitive\"\x7d],"
    ++ "\"name\":\"User\"\x7d]\x7d\x7d"

theorem parse_of_spelled_shuffled :
    userDocument.validate = .ok () ∧ userDocument.Spelled shuffledText.toList ∧
      parse "schema.json" shuffledText = .ok userDocument ∧
      parse "schema.json" (String.ofList userDocument.write) = .ok userDocument := by
  have hvalid : userDocument.validate = .ok () := by rfl
  have htext : shuffledText.toList = (bare (objectOf shuffledDocument)).spelled := by
    decide +kernel
  have hspelled : userDocument.Spelled shuffledText.toList := by
    rw [htext]
    exact .envelope spellsObject_shuffled
  obtain ⟨hparse, hwritten⟩ := parse_of_spelled hvalid "schema.json"
  exact ⟨hvalid, hspelled, hparse shuffledText hspelled, hwritten⟩

end Document

end SchemaClass
