import SchemaClass.Document.Validation
import SchemaClass.Document.Text
import SchemaClass.Proofs.Document.Search
import SchemaClass.Proofs.Json.Spelling
/-!
# Where a written document declares its names

A document is written piece by piece: brackets and commas, and members of objects.  Some members
declare something, the name of a model or of a field or the type of a field, and the pieces before
them tell where their values stand.

* `Document.pieces`, `write_eq_textOf`: the pieces of a document, and that they are what is written;
* `Document.declarations`: what is declared, by whom and where, in the order of the text;
* `declarations_map`, `covers_of_mem_declarations`, `declarations_pairwise`: what is declared, that
  the places are those of the names, and that no two declarations share one;
* `placesFrom_textOf`, `valueSpans_write`: a name is a value of its key exactly where it is
  declared, and is found there.
-/

namespace SchemaClass

open Text
open Json (ArePlain writeText writeObject writeList writeBoolean writeOption commas)
open Document (quoted QuoteFree placesFrom spanBehind isStoredUnder)

/-! ## 1. Pieces -/

/-- The key under which a document holds the names of an owner. -/
def NameOwner.key : NameOwner → String
  | model | field _ => "name"
  | fieldType .. => "type"

@[simp] theorem NameOwner.key_model : model.key = "name" := rfl

@[simp] theorem NameOwner.key_field (m : String) : (field m).key = "name" := rfl

/-- The start of a member, which is the first of its object or another one. -/
def memberStart (isFirst : Bool) (key : String) : List Char :=
  (if isFirst then '\x7b' else ',') :: (quoted key ++ [':'])

/-- A piece of a text. -/
inductive Piece where
  /-- A bracket or a comma. -/
  | mark (c : Char)
  /-- A member whose value has no string in it. -/
  | literal (isFirst : Bool) (key : String) (value : List Char)
  /-- A member whose value is a string that declares nothing. -/
  | remark (isFirst : Bool) (key value : String)
  /-- A member whose value declares a name. -/
  | declares (isFirst : Bool) (owner : NameOwner) (name : String)

namespace Piece

def text : Piece → List Char
  | mark c => [c]
  | literal isFirst key value => memberStart isFirst key ++ value
  | remark isFirst key value => memberStart isFirst key ++ quoted value
  | declares isFirst owner name => memberStart isFirst owner.key ++ quoted name

@[simp] theorem text_mark (c : Char) : (mark c).text = [c] := rfl

@[simp] theorem text_literal (isFirst : Bool) (key : String) (value : List Char) :
    (literal isFirst key value).text = memberStart isFirst key ++ value := rfl

@[simp] theorem text_remark (isFirst : Bool) (key value : String) :
    (remark isFirst key value).text = memberStart isFirst key ++ quoted value := rfl

@[simp] theorem text_declares (isFirst : Bool) (owner : NameOwner) (name : String) :
    (declares isFirst owner name).text = memberStart isFirst owner.key ++ quoted name := rfl

/-- What a piece declares. -/
def declared? : Piece → Option (NameOwner × String)
  | declares _ owner name => some (owner, name)
  | _ => none

end Piece

def textOf (ps : List Piece) : List Char := ps.flatMap Piece.text

/-- Items with commas between them. -/
def separated : List (List Piece) → List Piece
  | [] => []
  | item :: items => item ++ items.flatMap (.mark ',' :: ·)

/-- The type of a field of the model `m`, if it has one. -/
def Field.typePiece (m : String) (f : Field) : Piece :=
  match f.baseType with
  | none => .literal false "type" ['n', 'u', 'l', 'l']
  | some base => .declares false (.fieldType m f.name) base

/-- The pieces of a field of the model `m`. -/
def Field.pieces (m : String) (f : Field) : List Piece :=
  [.declares true (.field m) f.name, .remark false "kind" f.kind.name, f.typePiece m,
    .literal false "isList" (writeBoolean f.isList)]
  ++ f.relationName.toList.map (.remark false "relationName" ·) ++ [.mark '\x7d']

def Model.pieces (m : Model) : List Piece :=
  [.declares true .model m.name, .literal false "fields" ['[']]
    ++ separated (m.fields.map (Field.pieces m.name)) ++ [.mark ']', .mark '\x7d']

def Document.pieces (d : Document) : List Piece :=
  .literal true "models" ['['] :: separated (d.models.map Model.pieces)
    ++ [.mark ']', .mark '\x7d']

/-! ## 2. What is written -/

/-- A string that is written without escapes. -/
def IsPlainText (s : String) : Prop := ArePlain s.toList

instance (s : String) : Decidable (IsPlainText s) :=
  inferInstanceAs (Decidable (ArePlain s.toList))

/-- A field whose names and type are written without escapes. -/
def Field.Unescaped (f : Field) : Prop :=
  IsPlainText f.name ∧ (∀ base ∈ f.baseType.toList, IsPlainText base) ∧
    ∀ name ∈ f.relationName.toList, IsPlainText name

instance Field.decidableUnescaped (f : Field) : Decidable f.Unescaped :=
  inferInstanceAs (Decidable (_ ∧ _ ∧ _))

/-- A document whose names and types are written without escapes. -/
def Document.Unescaped (d : Document) : Prop :=
  ∀ m ∈ d.models, IsPlainText m.name ∧ ∀ f ∈ m.fields, f.Unescaped

instance Document.decidableUnescaped (d : Document) : Decidable d.Unescaped :=
  inferInstanceAs (Decidable (∀ m ∈ d.models, IsPlainText m.name ∧ ∀ f ∈ m.fields, f.Unescaped))

theorem IsPlainText.quoteFree {s : String} (h : IsPlainText s) : QuoteFree s.toList :=
  fun c hc => (h c hc).1

theorem writeChar_plain {x : Char} (h : Json.IsPlain x) : Json.writeChar x = [x] := by
  rw [Json.writeChar.eq_def]
  obtain ⟨hquote, hbackslash, hcontrol⟩ := h
  split
  case h_1 => exact absurd rfl hquote
  case h_2 => exact absurd rfl hbackslash
  case h_8 => exact if_neg (Nat.not_lt.mpr hcontrol)
  all_goals exact absurd hcontrol (by decide)

theorem writeText_plain {s : String} (h : IsPlainText s) : writeText s = quoted s := by
  have hchars : ∀ cs : List Char, ArePlain cs → cs.flatMap Json.writeChar = cs := by
    intro cs hcs
    induction cs with
    | nil => rfl
    | cons c cs ih =>
      rw [List.flatMap_cons, writeChar_plain (hcs c List.mem_cons_self),
        ih fun d hd => hcs d (List.mem_cons_of_mem c hd)]
      rfl
  rw [writeText, quoted, hchars s.toList h]

theorem textOf_append (ps qs : List Piece) : textOf (ps ++ qs) = textOf ps ++ textOf qs :=
  List.flatMap_append

theorem textOf_cons (p : Piece) (ps : List Piece) : textOf (p :: ps) = p.text ++ textOf ps := rfl

theorem textOf_separated (items : List (List Piece)) :
    textOf (separated items) = commas (items.map textOf) := by
  cases items with
  | nil => rfl
  | cons item items =>
    rw [separated, textOf_append, List.map_cons, commas, List.flatMap_map]
    congr 1
    rw [textOf, List.flatMap_assoc]
    rfl

/-- A member is a comma, a key and a value. -/
theorem memberStart_next {key : String} (h : IsPlainText key) (value : List Char) :
    ',' :: (writeText key ++ ':' :: value) = memberStart false key ++ value := by
  rw [writeText_plain h]
  simp [memberStart]

theorem memberStart_first {key : String} (h : IsPlainText key) (value : List Char) :
    '\x7b' :: (writeText key ++ ':' :: value) = memberStart true key ++ value := by
  rw [writeText_plain h]
  simp [memberStart]

/-- An object is written from the starts of its members. -/
theorem writeObject_cons {key : String} {value : List Char} (ms : List (String × List Char))
    (hkey : IsPlainText key) (hkeys : ∀ key ∈ ms.map (·.1), IsPlainText key) :
    writeObject ((key, value) :: ms) = memberStart true key ++ value
      ++ ms.flatMap (fun m => memberStart false m.1 ++ m.2) ++ ['\x7d'] := by
  have hrest : ∀ ms : List (String × List Char), (∀ m ∈ ms, IsPlainText m.1) →
      (ms.map fun m => writeText m.1 ++ ':' :: m.2).flatMap (',' :: ·)
        = ms.flatMap fun m => memberStart false m.1 ++ m.2 := by
    intro ms hms
    induction ms with
    | nil => rfl
    | cons m ms ih =>
      rw [List.map_cons, List.flatMap_cons, List.flatMap_cons,
        ih fun e he => hms e (List.mem_cons_of_mem m he),
        memberStart_next (hms m List.mem_cons_self)]
  rw [writeObject, List.map_cons, commas, hrest ms fun m hm => hkeys m.1 (List.mem_map_of_mem hm),
    ← memberStart_first hkey]
  rfl

theorem text_typePiece (m : String) {f : Field} (h : f.Unescaped) :
    (f.typePiece m).text = memberStart false "type" ++ writeOption writeText f.baseType := by
  rw [Field.typePiece]
  cases hbase : f.baseType with
  | none => rfl
  | some base =>
    have hplain : IsPlainText base := h.2.1 base (by simp [hbase])
    rw [writeOption, writeText_plain hplain]
    rfl

theorem write_field (m : String) {f : Field} (h : f.Unescaped) :
    f.write = textOf (f.pieces m) := by
  have hkind : writeText f.kind.name = quoted f.kind.name :=
    writeText_plain (by cases f.kind <;> decide)
  have hrelation : (f.relationName.toList.map fun name => ("relationName", writeText name)).flatMap
      (fun e => memberStart false e.1 ++ e.2)
      = textOf (f.relationName.toList.map (.remark false "relationName" ·)) := by
    rw [textOf, List.flatMap_map, List.flatMap_map]
    cases hname : f.relationName with
    | none => rfl
    | some name =>
      have hplain : IsPlainText name := h.2.2 name (by simp [hname])
      simp [writeText_plain hplain]
  rw [Field.write, List.cons_append, writeObject_cons _ (by decide), writeText_plain h.1, hkind,
    List.flatMap_append, hrelation]
  · simp [Field.pieces, textOf, text_typePiece m h]
  · simp only [List.map_append, List.map_map, List.forall_mem_append, List.map_cons, List.map_nil]
    refine ⟨by decide, fun key hkey => ?_⟩
    obtain ⟨name, -, rfl⟩ := List.mem_map.mp hkey
    change IsPlainText "relationName"
    decide

theorem write_model {m : Model} (hname : IsPlainText m.name)
    (hfields : ∀ f ∈ m.fields, f.Unescaped) : m.write = textOf m.pieces := by
  have hmap : m.fields.map Field.write = (m.fields.map (Field.pieces m.name)).map textOf := by
    rw [List.map_map]
    exact List.map_congr_left fun f hf => write_field m.name (hfields f hf)
  have hkeys : ∀ key ∈ ["fields"], IsPlainText key := by decide
  rw [Model.write, writeObject_cons [("fields", _)] (by decide) hkeys, writeText_plain hname,
    writeList, hmap, ← textOf_separated]
  simp [Model.pieces, textOf]

/-- **The pieces of a document are what is written.** -/
theorem Document.write_eq_textOf {d : Document} (h : d.Unescaped) : d.write = textOf d.pieces := by
  have hmap : d.models.map Model.write = (d.models.map Model.pieces).map textOf := by
    rw [List.map_map]
    exact List.map_congr_left fun m hm => write_model (h m hm).1 (h m hm).2
  rw [Document.write, writeObject_cons [] (by decide) fun _ h => absurd h List.not_mem_nil,
    writeList, hmap, ← textOf_separated]
  simp [Document.pieces, textOf]

/-! ## 3. Declarations -/

/-- A name that a text declares. -/
structure Declaration where
  owner : NameOwner
  name : String
  /-- The name without its quotes. -/
  span : Span
  deriving DecidableEq, Repr

/-- What a piece behind `n` bytes declares. -/
def Piece.declaration? (n : Nat) : Piece → Option Declaration
  | declares isFirst owner name =>
    some ⟨owner, name,
      ⟨n + byteLength (memberStart isFirst owner.key) + 1, byteLength name.toList⟩⟩
  | _ => none

/-- What some pieces behind `n` bytes declare. -/
def declarationsFrom : Nat → List Piece → List Declaration
  | _, [] => []
  | n, p :: ps => (p.declaration? n).toList ++ declarationsFrom (n + byteLength p.text) ps

/-- What a document declares, in the order of its text. -/
def Document.declarations (d : Document) : List Declaration := declarationsFrom 0 d.pieces

theorem declarationsFrom_map (n : Nat) (ps : List Piece) :
    (declarationsFrom n ps).map (fun x => (x.owner, x.name)) = ps.filterMap Piece.declared? := by
  induction ps generalizing n with
  | nil => rfl
  | cons p ps ih =>
    rw [declarationsFrom, List.map_append, ih]
    cases p <;> rfl

/-- What a field of the model `m` declares: its name, and its type if it has one. -/
def Field.declared (m : String) (f : Field) : List (NameOwner × String) :=
  (.field m, f.name) :: f.baseType.toList.map (.fieldType m f.name, ·)

/-- What a model declares: its name and what its fields declare. -/
def Model.declared (m : Model) : List (NameOwner × String) :=
  (.model, m.name) :: m.fields.flatMap (Field.declared m.name)

theorem filterMap_separated (items : List (List Piece)) :
    (separated items).filterMap Piece.declared?
      = items.flatMap (·.filterMap Piece.declared?) := by
  cases items with
  | nil => rfl
  | cons item items =>
    rw [separated, List.filterMap_append, List.flatMap_cons]
    congr 1
    rw [List.filterMap_flatMap]
    rfl

theorem declared_field (m : String) (f : Field) :
    (f.pieces m).filterMap Piece.declared? = f.declared m := by
  have hremarks : (f.relationName.toList.map (.remark false "relationName" ·)).filterMap
      Piece.declared? = [] := by cases f.relationName <;> rfl
  rw [Field.pieces, List.filterMap_append, List.filterMap_append, hremarks, List.append_nil,
    Field.declared, Field.typePiece]
  cases f.baseType <;> rfl

theorem declared_model (m : Model) : m.pieces.filterMap Piece.declared? = m.declared := by
  have hfields : (m.fields.map (Field.pieces m.name)).flatMap (·.filterMap Piece.declared?)
      = m.fields.flatMap (Field.declared m.name) := by
    rw [List.flatMap_map]
    simp only [declared_field]
  rw [Model.pieces, List.filterMap_append, List.filterMap_append, filterMap_separated, hfields,
    Model.declared]
  exact List.append_nil _

/-- **What a document declares**, apart from where. -/
theorem Document.declarations_map (d : Document) :
    d.declarations.map (fun x => (x.owner, x.name)) = d.models.flatMap Model.declared := by
  have hmodels : (d.models.map Model.pieces).flatMap (·.filterMap Piece.declared?)
      = d.models.flatMap Model.declared := by
    rw [List.flatMap_map]
    simp only [declared_model]
  rw [declarations, declarationsFrom_map, pieces, List.filterMap_append, List.filterMap_cons,
    filterMap_separated, hmodels]
  exact List.append_nil _

/-- A declaration stands inside of the piece that makes it. -/
theorem offset_of_declaration? {n : Nat} {p : Piece} {x : Declaration}
    (h : p.declaration? n = some x) :
    n < x.span.offset ∧ x.span.offset < n + byteLength p.text := by
  cases p with
  | declares isFirst owner name =>
    cases h
    simp only [Piece.text_declares, byteLength_append, quoted, byteLength_cons]
    have hquote : Char.utf8Size '"' = 1 := rfl
    omega
  | _ => cases h

/-- A declaration has the place of its name in the text. -/
theorem covers_of_mem_declarationsFrom {n : Nat} {ps : List Piece} {x : Declaration}
    (h : x ∈ declarationsFrom n ps) :
    ∃ before behind, textOf ps = before ++ (quoted x.name ++ behind) ∧
      x.span = ⟨n + byteLength before + 1, byteLength x.name.toList⟩ := by
  induction ps generalizing n with
  | nil => exact absurd h List.not_mem_nil
  | cons p ps ih =>
    rcases List.mem_append.mp h with h | h
    · cases p with
      | declares isFirst owner name =>
        obtain rfl := Option.some.inj (Option.mem_toList.mp h)
        refine ⟨memberStart isFirst owner.key, textOf ps, ?_, rfl⟩
        rw [textOf_cons, Piece.text_declares, List.append_assoc]
      | _ => exact absurd h List.not_mem_nil
    · obtain ⟨before, behind, htext, hspan⟩ := ih h
      refine ⟨p.text ++ before, behind, by rw [textOf_cons, htext, List.append_assoc], ?_⟩
      rw [hspan, byteLength_append, Nat.add_assoc n]

theorem offset_of_mem_declarationsFrom {n : Nat} {ps : List Piece} {x : Declaration}
    (h : x ∈ declarationsFrom n ps) : n < x.span.offset := by
  induction ps generalizing n with
  | nil => exact absurd h List.not_mem_nil
  | cons p ps ih =>
    rcases List.mem_append.mp h with h | h
    · exact (offset_of_declaration? (Option.mem_toList.mp h)).1
    · exact lt_of_le_of_lt (Nat.le_add_right _ _) (ih h)

theorem declarationsFrom_pairwise (n : Nat) (ps : List Piece) :
    (declarationsFrom n ps).Pairwise (·.span.offset < ·.span.offset) := by
  induction ps generalizing n with
  | nil => exact List.Pairwise.nil
  | cons p ps ih =>
    rw [declarationsFrom, List.pairwise_append]
    refine ⟨?_, ih _, fun x hx y hy => ?_⟩
    · cases p.declaration? n with
      | none => exact List.Pairwise.nil
      | some x => exact List.pairwise_singleton _ x
    · exact (offset_of_declaration? (Option.mem_toList.mp hx)).2.trans
        (offset_of_mem_declarationsFrom hy)

/-! ## 4. Where the names stand -/

/-- A piece that shows no names but those that it declares. -/
def Piece.Sound : Piece → Prop
  | mark c => c ≠ '"'
  | literal _ key value => QuoteFree key.toList ∧ QuoteFree value
  | remark _ key value =>
    QuoteFree key.toList ∧ QuoteFree value.toList ∧ ∀ owner : NameOwner, key ≠ owner.key
  | declares _ _ name => QuoteFree name.toList

theorem NameOwner.key_mem (owner : NameOwner) : owner.key ∈ ["name", "type"] := by
  cases owner with
  | model => exact List.mem_cons_self
  | field => exact List.mem_cons_self
  | fieldType => exact List.mem_cons_of_mem _ List.mem_cons_self

theorem NameOwner.key_quoteFree (owner : NameOwner) : QuoteFree owner.key.toList := by
  have hall : ∀ key ∈ ["name", "type"], QuoteFree key.toList := by decide
  exact hall owner.key owner.key_mem

/-- A text that ends with some other character does not end with the key of an owner. -/
theorem NameOwner.key_ne (owner : NameOwner) {c : Char} (hc : c ≠ 'e') (front earlier : List Char) :
    front ++ [c] ≠ earlier ++ '"' :: owner.key.toList := by
  intro h
  have hall : ∀ key ∈ ["name", "type"], ('"' :: key.toList).getLast? = some 'e' := by decide
  have hlast := congrArg List.getLast? h
  rw [List.getLast?_concat, List.getLast?_append, hall owner.key owner.key_mem] at hlast
  exact hc (Option.some.inj hlast)

variable {owner : NameOwner} {value : String}

/-- The start of a member shows no value. -/
theorem placesFrom_memberStart (hvalue : QuoteFree value.toList) (isFirst : Bool) {key : String}
    (hkey : QuoteFree key.toList) (front text : List Char) :
    placesFrom owner.key value front.reverse (memberStart isFirst key ++ text)
      = placesFrom owner.key value (front ++ memberStart isFirst key).reverse text := by
  -- neither quote of the key begins a value: no colon stands before the first, and what stands
  -- before the key does not end with a key
  obtain ⟨lead, hlead, hquote, hblank, hcolon, hlast⟩ :
      ∃ lead, memberStart isFirst key = lead :: (quoted key ++ [':']) ∧
        lead ≠ '"' ∧ isBlank lead = false ∧ lead ≠ ':' ∧ lead ≠ 'e' :=
    ⟨_, rfl, by cases isFirst <;> decide⟩
  have hreverse : ([lead].reverse ++ front.reverse).reverse = front ++ [lead] := by simp
  have hfree : QuoteFree [lead] := List.forall_mem_singleton.mpr hquote
  have hnone : isStoredUnder owner.key ([lead].reverse ++ front.reverse).reverse = false := by
    rw [hreverse]
    exact Document.isStoredUnder_append_singleton hblank hcolon front
  have hsplit : memberStart isFirst key ++ text = [lead] ++ (quoted key ++ ([':'] ++ text)) := by
    simp [hlead]
  rw [hsplit, Document.placesFrom_quoteFree hfree, Document.placesFrom_quoted hkey hvalue ?_, hnone,
    Document.placesFrom_quoteFree (by decide)]
  · simp [hlead]
  · intro earlier
    rw [hreverse]
    exact owner.key_ne hlast front earlier

/-- A member whose value is a string shows the value, if it has the key. -/
theorem placesFrom_member (hvalue : QuoteFree value.toList) (isFirst : Bool) {key s : String}
    (hkey : QuoteFree key.toList) (hs : QuoteFree s.toList) (front text : List Char) :
    placesFrom owner.key value front.reverse (memberStart isFirst key ++ quoted s ++ text)
      = (if key = owner.key ∧ s = value then
          [spanBehind (front ++ memberStart isFirst key) value] else [])
        ++ placesFrom owner.key value (front ++ (memberStart isFirst key ++ quoted s)).reverse
          text := by
  have hstart : front ++ memberStart isFirst key
      = (front ++ [if isFirst then '\x7b' else ',']) ++ (quoted key ++ [':']) := by
    simp [memberStart]
  have hstored : isStoredUnder owner.key (front ++ memberStart isFirst key) = true
      ↔ key = owner.key := by
    rw [hstart]
    exact Document.isStoredUnder_member owner.key_quoteFree hkey _
  have hcolon : front ++ memberStart isFirst key
      = (front ++ (if isFirst then '\x7b' else ',') :: quoted key) ++ [':'] := by
    simp [memberStart]
  have hreverse : (quoted s).reverse ++ (front ++ memberStart isFirst key).reverse
      = (front ++ (memberStart isFirst key ++ quoted s)).reverse := by simp
  rw [List.append_assoc, placesFrom_memberStart hvalue isFirst hkey,
    Document.placesFrom_quoted hs hvalue ?_, hreverse, List.reverse_reverse]
  · simp only [hstored, and_comm]
  · intro earlier
    rw [List.reverse_reverse, hcolon]
    exact owner.key_ne (by decide) _ earlier

/-- A piece shows a name where it declares it. -/
theorem placesFrom_piece (hvalue : QuoteFree value.toList) {p : Piece} (hp : p.Sound)
    (front text : List Char) :
    placesFrom owner.key value front.reverse (p.text ++ text)
      = (((p.declaration? (byteLength front)).toList.filter
          fun x => x.owner.key = owner.key ∧ x.name = value).map (·.span))
        ++ placesFrom owner.key value (front ++ p.text).reverse text := by
  cases p with
  | mark c =>
    have hfree : QuoteFree [c] := List.forall_mem_singleton.mpr hp
    rw [Piece.text_mark, Document.placesFrom_quoteFree hfree, List.reverse_append]
    rfl
  | literal isFirst key cs =>
    rw [Piece.text_literal, List.append_assoc, placesFrom_memberStart hvalue isFirst hp.1,
      Document.placesFrom_quoteFree hp.2, ← List.reverse_append, List.append_assoc]
    rfl
  | remark isFirst key s =>
    rw [Piece.text_remark, placesFrom_member hvalue isFirst hp.1 hp.2.1,
      if_neg fun h => hp.2.2 owner h.1]
    rfl
  | declares isFirst other name =>
    rw [Piece.text_declares, placesFrom_member hvalue isFirst other.key_quoteFree hp,
      Piece.declaration?, Option.toList_some, List.filter_cons, List.filter_nil]
    simp only [decide_eq_true_iff, spanBehind, byteLength_append]
    split
    · next h =>
      obtain ⟨-, rfl⟩ := h
      rfl
    · rfl

/-- **A name is a value of its key exactly where it is declared.** -/
theorem placesFrom_textOf (hvalue : QuoteFree value.toList) {ps : List Piece}
    (hps : ∀ p ∈ ps, p.Sound) (front : List Char) :
    placesFrom owner.key value front.reverse (textOf ps)
      = ((declarationsFrom (byteLength front) ps).filter
          fun x => x.owner.key = owner.key ∧ x.name = value).map (·.span) := by
  induction ps generalizing front with
  | nil => rfl
  | cons p ps ih =>
    rw [textOf_cons, placesFrom_piece hvalue (hps p List.mem_cons_self),
      ih (fun q hq => hps q (List.mem_cons_of_mem p hq)), declarationsFrom, List.filter_append,
      List.map_append, byteLength_append]

/-! ## 5. Documents -/

theorem sound_mark {c : Char} (h : c ≠ '"') : (Piece.mark c).Sound := h

theorem sound_separated {items : List (List Piece)} (h : ∀ item ∈ items, ∀ p ∈ item, p.Sound) :
    ∀ p ∈ separated items, p.Sound := by
  cases items with
  | nil => exact fun _ hp => absurd hp List.not_mem_nil
  | cons item items =>
    rw [separated, List.forall_mem_append]
    refine ⟨h item List.mem_cons_self, fun p hp => ?_⟩
    obtain ⟨other, hother, hp⟩ := List.mem_flatMap.mp hp
    rcases List.mem_cons.mp hp with rfl | hp
    · exact sound_mark (by decide)
    · exact h other (List.mem_cons_of_mem item hother) p hp

theorem sound_field (m : String) {f : Field} (h : f.Unescaped) : ∀ p ∈ f.pieces m, p.Sound := by
  obtain ⟨hname, htype, hrelation⟩ := h
  have hremark : ∀ key ∈ ["kind", "relationName"], ∀ owner : NameOwner, key ≠ owner.key := by
    intro key hkey owner heq
    have hall : ∀ key ∈ ["kind", "relationName"], key ∉ ["name", "type"] := by decide
    exact hall key hkey (heq ▸ owner.key_mem)
  simp only [Field.pieces, List.forall_mem_append, List.forall_mem_cons]
  refine ⟨⟨⟨hname.quoteFree, ?_, ?_, ?_, nofun⟩, fun p hp => ?_⟩, ?_, nofun⟩
  · exact ⟨by decide, by cases f.kind <;> decide, hremark "kind" List.mem_cons_self⟩
  · rw [Field.typePiece]
    split
    · exact ⟨by decide, by decide⟩
    · next base hbase => exact (htype base (by simp [hbase])).quoteFree
  · exact ⟨by decide, by cases f.isList <;> decide⟩
  · obtain ⟨name, hmem, rfl⟩ := List.mem_map.mp hp
    exact ⟨by decide, (hrelation name hmem).quoteFree,
      hremark "relationName" (List.mem_cons_of_mem _ List.mem_cons_self)⟩
  · exact sound_mark (by decide)

theorem sound_model {m : Model} (hname : IsPlainText m.name)
    (hfields : ∀ f ∈ m.fields, f.Unescaped) : ∀ p ∈ m.pieces, p.Sound := by
  have hparts : ∀ p ∈ separated (m.fields.map (Field.pieces m.name)), p.Sound :=
    sound_separated fun item hitem => by
      obtain ⟨f, hf, rfl⟩ := List.mem_map.mp hitem
      exact sound_field m.name (hfields f hf)
  simp only [Model.pieces, List.forall_mem_append, List.forall_mem_cons]
  refine ⟨⟨⟨hname.quoteFree, ?_, nofun⟩, hparts⟩, sound_mark (by decide), sound_mark (by decide),
    nofun⟩
  exact ⟨by decide, by decide⟩

theorem Document.sound_pieces {d : Document} (h : d.Unescaped) : ∀ p ∈ d.pieces, p.Sound := by
  have hparts : ∀ p ∈ separated (d.models.map Model.pieces), p.Sound :=
    sound_separated fun item hitem => by
      obtain ⟨m, hm, rfl⟩ := List.mem_map.mp hitem
      exact sound_model (h m hm).1 (h m hm).2
  simp only [Document.pieces, List.forall_mem_append, List.forall_mem_cons]
  refine ⟨⟨?_, hparts⟩, sound_mark (by decide), sound_mark (by decide), nofun⟩
  exact ⟨by decide, by decide⟩

namespace Document

variable {d : Document}

/-- **A declaration has the place of its name** in what is written. -/
theorem covers_of_mem_declarations (h : d.Unescaped) {x : Declaration} (hx : x ∈ d.declarations) :
    ∃ before behind, d.write = before ++ (quoted x.name ++ behind) ∧
      x.span = spanBehind before x.name := by
  obtain ⟨before, behind, htext, hspan⟩ := covers_of_mem_declarationsFrom hx
  refine ⟨before, behind, (write_eq_textOf h).trans htext, ?_⟩
  rw [hspan, Nat.zero_add, spanBehind]

theorem declarations_pairwise (d : Document) :
    d.declarations.Pairwise (·.span.offset < ·.span.offset) := declarationsFrom_pairwise 0 d.pieces

/-- **The search finds a name where it is declared under its key**, unless it looks like a colon. -/
theorem valueSpans_write (h : d.Unescaped) (owner : NameOwner) {name : String}
    (hname : IsPlainText name) (hcolon : ¬ IsColon name.toList) :
    valueSpans d.write owner.key name
      = (d.declarations.filter fun x => x.owner.key = owner.key ∧ x.name = name).map (·.span) := by
  rw [valueSpans_eq_placesFrom hname.quoteFree hcolon, write_eq_textOf h]
  exact placesFrom_textOf hname.quoteFree (sound_pieces h) []

theorem valueSpans_write_sublist (h : d.Unescaped) (owner : NameOwner) {name : String}
    (hname : IsPlainText name) :
    (valueSpans d.write owner.key name).Sublist
      ((d.declarations.filter fun x => x.owner.key = owner.key ∧ x.name = name).map (·.span)) := by
  have hplaces : placesFrom owner.key name [] (textOf d.pieces)
      = (d.declarations.filter fun x => x.owner.key = owner.key ∧ x.name = name).map (·.span) :=
    placesFrom_textOf hname.quoteFree (sound_pieces h) []
  rw [write_eq_textOf h, ← hplaces]
  exact valueSpans_sublist _ _ _

end Document

end SchemaClass
