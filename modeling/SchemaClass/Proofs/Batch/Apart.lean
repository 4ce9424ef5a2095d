import SchemaClass.Proofs.Batch.Placed
import SchemaClass.Proofs.Entity.Conversion
import SchemaClass.Proofs.Placement
/-!
# How far apart files are

A document is refused if two of its models have one name in lowercase words, and a batch if two of
its files meet.  For models that are named by identifiers these are the same condition, in either
layout and in any output directory.  And files that do not meet stay apart on a disk that has its
own idea of names: their paths differ in normal form too, and where letter case does not count.

* `Path.caseless`: the text of a path without its letter case;
* `lower_eq_of_caseless`: the last component shows in it;
* `map_toLower_kebab`: a name in lowercase words is in lowercase;
* `Layout.Inside`: a path that is a component or two behind a directory;
* `caseless_ne`: the paths of two files of different names, and their normal forms;
* `not_meet_iff`: when no files meet;
* `places_of_models`: when models can be placed, and where they are then.
-/

namespace SchemaClass

open Outcome

/-! ## 1. Letter case -/

/-- The text of a path where the letter case of ASCII does not count. -/
def Path.caseless (p : Path) : List Char := p.text.toList.map Char.toLower

namespace Path

/-- No letter becomes a slash. -/
theorem toLower_eq_slash_iff {c : Char} : c.toLower = '/' ↔ c = '/' := by
  have hslash : ∀ d : Char, d.val.toNat = 47 ↔ d = '/' := fun d => by
    rw [← Char.toNat_inj]
    rfl
  delta Char.toLower
  split
  · next h =>
    obtain ⟨hA, hZ⟩ := h
    rw [ge_iff_le, UInt32.le_iff_toNat_le] at hA
    rw [UInt32.le_iff_toNat_le] at hZ
    have h65 : 'A'.val.toNat = 65 := rfl
    have h90 : 'Z'.val.toNat = 90 := rfl
    have h32 : ('a'.val - 'A'.val).toNat = 32 := rfl
    rw [← hslash, ← hslash]
    dsimp only
    rw [UInt32.toNat_add, h32]
    omega
  · exact Iff.rfl

/-- What stands behind the last slash of a text. -/
def lastName (text : List Char) : List Char := (text.reverse.takeWhile (· != '/')).reverse

theorem lastName_opened_append (cs : List PathChar) {name : List Char} (h : '/' ∉ name) :
    lastName ((opened cs).map PathChar.shown ++ name) = name := by
  have hpass : ∀ c ∈ name.reverse, (c != '/') = true := by
    intro c hc
    rw [bne_iff_ne]
    rintro rfl
    exact h (List.mem_reverse.mp hc)
  have hstop : ((opened cs).map PathChar.shown).reverse.takeWhile (· != '/') = [] := by
    rw [opened]
    split
    · next hlast =>
      rcases List.eq_nil_or_concat cs with rfl | ⟨before, c, rfl⟩
      · rfl
      · obtain rfl : c = .slash := by simpa using hlast
        simp [PathChar.shown]
    · simp [PathChar.shown]
  rw [lastName, List.reverse_append, List.takeWhile_append_of_pos hpass, hstop, List.append_nil,
    List.reverse_reverse]

/-- Letter case does not move slashes. -/
theorem lastName_map_toLower (text : List Char) :
    lastName (text.map Char.toLower) = (lastName text).map Char.toLower := by
  have hslash : ((· != '/') ∘ Char.toLower) = fun c : Char => c != '/' := by
    funext c
    rw [Function.comp_apply, Bool.eq_iff_iff, bne_iff_ne, bne_iff_ne, ne_eq, toLower_eq_slash_iff]
  rw [lastName, ← List.map_reverse, List.takeWhile_map, hslash, ← List.map_reverse, lastName]

/-- **The last component shows in a path without letter case.** -/
theorem lower_eq_of_caseless {p q : Path} {s t : String} (hs : IsComponent s) (ht : IsComponent t)
    (h : (p.join ⟨s⟩).caseless = (q.join ⟨t⟩).caseless) :
    s.toList.map Char.toLower = t.toList.map Char.toLower := by
  have hlast : ∀ (r : Path) {name : String}, IsComponent name →
      lastName (r.join ⟨name⟩).caseless = name.toList.map Char.toLower := by
    intro r name hname
    have hslash : '/' ∉ name.toList := mt PathChar.char_mem_ofText.mpr hname.no_slash
    have htext : (r.join ⟨name⟩).text.toList
        = (opened r.chars).map PathChar.shown ++ name.toList := by
      rw [Path.text, chars_join r (isAbsolute_component hname), PathChar.text_append,
        PathChar.text_ofText, String.toList_append, PathChar.text, String.toList_ofList]
    rw [caseless, lastName_map_toLower, htext, lastName_opened_append _ hslash]
  rw [← hlast p hs, ← hlast q ht, h]

end Path

namespace Naming

open Text.LetterCase

theorem toLower_toLower {c : Char} (h : ContinuesIdentifier c) :
    c.toLower.toLower = c.toLower :=
  forall_ascii (P := fun c => c.toLower.toLower = c.toLower) (by decide) (isAscii_of_continues h)

/-- **The file name of an identifier is in lowercase.** -/
theorem map_toLower_kebab {s : String} (h : SpelledAsIdentifier s) :
    (kebab s).toList.map Char.toLower = (kebab s).toList := by
  have hlower : ∀ c ∈ (kebab s).toList, c.toLower = c := by
    intro c hc
    rcases mem_kebab hc with rfl | ⟨d, hd, -, hcd⟩
    · decide
    · have hcont := continues_of_spelled h d hd
      rw [lower_ascii (isAscii_of_continues hcont), List.mem_singleton] at hcd
      rw [hcd, toLower_toLower hcont]
  rw [List.map_congr_left hlower, List.map_id']

end Naming

/-! ## 2. Two places -/

namespace Layout

open SchemaClass.Path

/-- The path is a component or two behind the directory, and nothing else. -/
def Inside (output p : Path) : Prop :=
  ∃ names : List String, (names.length = 1 ∨ names.length = 2) ∧ (∀ s ∈ names, IsComponent s) ∧
    p = names.foldl (fun q s => q.join ⟨s⟩) output ∧
    p.parts = output.parts ++ (names.map PathChar.ofText).map .name

variable {l : Layout} {output : Path} {extension a b : String}

/-- A file in its directory, one component after the other. -/
theorem join_directory (l : Layout) (output : Path) (k s : String) :
    (l.directory output k).join ⟨s⟩
      = (l.folders k ++ [s]).foldl (fun q s => q.join ⟨s⟩) output := by
  cases l with
  | flat => rfl
  | nested =>
    rw [directory, folders]
    split
    · next hempty => rw [hempty, ← join_assoc, PathChar.ofText_empty, empty_join, List.nil_append,
        List.foldl_cons, List.foldl_nil]
    · rfl

section Identifiers

variable (ha : SpelledAsIdentifier a) (hb : SpelledAsIdentifier b) (hext : IsPlain extension)
  (hne : extension ≠ "")

include ha hext hne

/-- **A placed file is inside of the output directory.** -/
theorem inside_location : Inside output (l.location output extension a).path := by
  have hplain := Naming.isPlain_kebab ha
  refine ⟨l.folders (Naming.kebab a) ++ [l.fileName (Naming.kebab a) extension], ?_, ?_, ?_, ?_⟩
  · cases l with
    | flat => exact Or.inl rfl
    | nested =>
      rw [folders]
      split
      · exact Or.inl rfl
      · exact Or.inr rfl
  · intro s hs
    rcases List.mem_append.mp hs with hs | hs
    · exact isComponent_folders hplain s hs
    · rw [List.mem_singleton.mp hs]
      exact isComponent_fileName hplain hext hne
  · exact join_directory l output (Naming.kebab a) (l.fileName (Naming.kebab a) extension)
  · rw [parts_location hplain hext hne, List.map_append, List.map_append, List.append_assoc]
    rfl

include hb

theorem kebab_of_caseless {p q : Path}
    (h : (p.join ⟨l.fileName (Naming.kebab a) extension⟩).caseless
      = (q.join ⟨l.fileName (Naming.kebab b) extension⟩).caseless) :
    Naming.kebab a = Naming.kebab b := by
  have hlower := lower_eq_of_caseless
    (isComponent_fileName (Naming.isPlain_kebab ha) hext hne)
    (isComponent_fileName (Naming.isPlain_kebab hb) hext hne) h
  -- both file names end like that of the empty name, and what stands before is in lowercase
  have hstem : ∀ k : String, (l.fileName k extension).toList.map Char.toLower
      = k.toList.map Char.toLower
        ++ (l.fileName "" extension).toList.map Char.toLower := by
    intro k
    cases l <;> simp [fileName, stem]
  rw [hstem, hstem (Naming.kebab b), List.append_left_inj, Naming.map_toLower_kebab ha,
    Naming.map_toLower_kebab hb, String.toList_inj] at hlower
  exact hlower

/-- **The paths of two files differ where letter case does not count**, as they are and in normal
form. -/
theorem caseless_ne (hab : Naming.kebab a ≠ Naming.kebab b) :
    (l.location output extension a).path.caseless ≠ (l.location output extension b).path.caseless ∧
      (l.location output extension a).path.normalize.caseless
        ≠ (l.location output extension b).path.normalize.caseless := by
  have hnormal : ∀ {name : String}, SpelledAsIdentifier name →
      ∃ p : Path, (l.location output extension name).path.normalize
        = p.join ⟨l.fileName (Naming.kebab name) extension⟩ := fun hname =>
    ⟨_, by rw [Path.normalize, normalizeParts_location (Naming.isPlain_kebab hname) hext hne,
      ofParts_append, Part.chars]⟩
  refine ⟨fun h => hab (kebab_of_caseless ha hb hext hne h), fun h => ?_⟩
  obtain ⟨p, hp⟩ := hnormal ha
  obtain ⟨q, hq⟩ := hnormal hb
  rw [hp, hq] at h
  exact hab (kebab_of_caseless ha hb hext hne h)

end Identifiers

end Layout

/-! ## 3. All places -/

namespace Batch

variable {l : Layout} {output : Path} {extension : String} {es : List Entity}

/-- **No files meet exactly if no two names are one in lowercase words**, for entities that have
different identifiers for names. -/
theorem not_meet_iff (hext : IsPlain extension) (hne : extension ≠ "")
    (hnames : (es.map (·.name)).Nodup) (hspelled : ∀ e ∈ es, SpelledAsIdentifier e.name) :
    ¬ Meet (.ofLayout l output extension) es ↔ (es.map fun e => Naming.kebab e.name).Nodup := by
  have hes : es.Nodup := List.Nodup.of_map _ hnames
  rw [List.nodup_map_iff_inj_on hes]
  constructor
  · intro h e he e' he' hkebab
    by_contra hee'
    refine h ⟨e, he, e', he', fun hname => ?_, ?_⟩
    · exact hee' (List.inj_on_of_nodup_map hnames he he' hname)
    · rw [Layout.ofLayout_eq_location, Layout.ofLayout_eq_location, Layout.location,
        Layout.location, hkebab]
      rfl
  · rintro h ⟨e, he, e', he', hname, hsame⟩
    rw [Layout.ofLayout_eq_location, Layout.ofLayout_eq_location] at hsame
    have hkebab := Layout.kebab_of_samePlace (Naming.isPlain_kebab (hspelled e he))
      (Naming.isPlain_kebab (hspelled e' he')) hext hne hsame
    exact hname (congrArg Entity.name (h e he e' he' hkebab))

/-- The entities of models that have been converted one by one. -/
theorem eq_converted_of_mapM {mapper : TypeMapper} {decoration : Decoration} {ms : List Model}
    {es : List Entity} (h : ms.mapM (·.entity mapper decoration) = .ok es) :
    es = ms.map (·.converted mapper decoration) := by
  have hmodels : ∀ m ∈ ms, m.entity mapper decoration = .ok (m.converted mapper decoration) := by
    intro m hm
    obtain ⟨e, he⟩ := exists_ok_of_mapM h m hm
    exact Model.entity_eq_ok (Model.entity_eq_ok_iff.mp he).1
  rw [mapM_eq_ok_map hmodels] at h
  exact (Except.ok.inj h).symm

/-- **When models can be placed, and where they are then.**  Placement finds two files that meet
exactly if two names are one in lowercase words.  If it succeeds, each model has its file, the files
are inside of the output directory, and no two paths can be taken for one another, be it in normal
form or where letter case does not count. -/
theorem places_of_models (mapper : TypeMapper) (decoration : Decoration) (l : Layout)
    (output : Path) {extension : String} (hext : IsPlain extension) (hne : extension ≠ "")
    {ms : List Model} {es : List Entity} (hes : ms.mapM (·.entity mapper decoration) = .ok es)
    (hnames : (ms.map (·.name)).Nodup) (hspelled : ∀ m ∈ ms, IsIdentifier m.name) :
    (((ofEntities es).placeAll (.ofLayout l output extension)).2 = .ok () ↔
      (ms.map fun m => Naming.kebab m.name).Nodup) ∧
    ∀ b, (ofEntities es).placeAll (.ofLayout l output extension) = (b, .ok ()) →
      b.files.map (·.entity) = es ∧
      (∀ f ∈ b.files, ∃ p, f.path? = some p ∧ Layout.Inside output p) ∧
      (b.files.filterMap (·.path?)).Pairwise fun p q =>
        ¬ p.normalize.SamePlace q.normalize ∧ p.caseless ≠ q.caseless ∧
          p.normalize.caseless ≠ q.normalize.caseless := by
  obtain rfl := eq_converted_of_mapM hes
  have hnames' : ((ms.map (·.converted mapper decoration)).map (·.name)).Nodup := by
    rw [List.map_map]
    exact hnames
  have hspelled' : ∀ e ∈ ms.map (·.converted mapper decoration), SpelledAsIdentifier e.name := by
    intro e he
    obtain ⟨m, hm, rfl⟩ := List.mem_map.mp he
    exact identifierFault?_eq_none_iff.mp (hspelled m hm)
  have hkebab : ((ms.map (·.converted mapper decoration)).map fun e => Naming.kebab e.name)
      = ms.map fun m => Naming.kebab m.name := by
    rw [List.map_map]
    rfl
  have hiff : ((ofEntities (ms.map (·.converted mapper decoration))).placeAll
      (.ofLayout l output extension)).2 = .ok () ↔ _ :=
    placeAll_ofEntities_eq_ok_iff fun _ _ => Layout.ofLayout_congr
  rw [not_meet_iff hext hne hnames' hspelled'] at hiff
  rw [← hkebab]
  generalize ms.map (·.converted mapper decoration) = es at *
  refine ⟨hiff, fun b hb => ?_⟩
  have hholds := holds_of_placeAll hb
  have hpath : ∀ f ∈ b.files, f.path? = some (l.location output extension f.entity.name).path := by
    intro f hf
    rw [ClassFile.path?, hholds.location hf, Layout.ofLayout_eq_location, Option.map_some]
  refine ⟨hholds.entities_of_nodup hnames', ?_, ?_⟩
  · intro f hf
    exact ⟨_, hpath f hf, Layout.inside_location (hspelled' _ (hholds.mem hf)) hext hne⟩
  · have hapart : b.files.Pairwise fun f g =>
        Naming.kebab f.entity.name ≠ Naming.kebab g.entity.name := by
      have hnodup := hiff.mp (congrArg Prod.snd hb)
      rw [← hholds.entities_of_nodup hnames', List.map_map] at hnodup
      exact List.pairwise_map.mp hnodup
    have hpaths : b.files.filterMap (·.path?)
        = b.files.map fun f => (l.location output extension f.entity.name).path := by
      rw [← List.filterMap_eq_map]
      exact List.filterMap_congr fun f hf => hpath f hf
    rw [hpaths, List.pairwise_map]
    refine hapart.imp_of_mem fun {f g} hf hg hfg => ?_
    obtain ⟨hpath, hnormal⟩ := Layout.caseless_ne (hspelled' _ (hholds.mem hf))
      (hspelled' _ (hholds.mem hg)) hext hne hfg
    exact ⟨fun hsame => hnormal (congrArg Path.caseless (Path.normalize_eq_of_samePlace hsame)),
      hpath, hnormal⟩

/-- Names whose lowercase words are hard to tell apart, or are no words at all. -/
def oddModels : List Model := [⟨"APIKey", []⟩, ⟨"ApiKey2", []⟩, ⟨"_", []⟩, ⟨"$_", []⟩, ⟨"entity", []⟩]

theorem places_of_models_odd :
    oddModels.mapM (·.entity .typeScript {}) = .ok (oddModels.map (·.converted .typeScript {})) ∧
      (oddModels.map (·.name)).Nodup ∧ (∀ m ∈ oddModels, IsIdentifier m.name) ∧
      ∃ b, (ofEntities (oddModels.map (·.converted .typeScript {}))).placeAll
          (.ofLayout .nested ⟨"../out/./gen"⟩ "ts") = (b, .ok ()) ∧
        (∀ f ∈ b.files, ∃ p, f.path? = some p ∧ Layout.Inside ⟨"../out/./gen"⟩ p) ∧
        (b.files.filterMap (·.path?)).Pairwise (fun p q => p.caseless ≠ q.caseless) := by
  have hes : oddModels.mapM (·.entity .typeScript {})
      = .ok (oddModels.map (·.converted .typeScript {})) := rfl
  have hnames : (oddModels.map (·.name)).Nodup := by decide
  have hspelled : ∀ m ∈ oddModels, IsIdentifier m.name := by decide
  obtain ⟨hiff, hplaces⟩ := places_of_models .typeScript {} .nested ⟨"../out/./gen"⟩
    (by decide : IsPlain "ts") (by decide) hes hnames hspelled
  have hkebab : (oddModels.map fun m => Naming.kebab m.name).Nodup := by decide +kernel
  generalize oddModels.map (·.converted .typeScript {}) = es at hes hiff hplaces ⊢
  have hplaced : (ofEntities es).placeAll (.ofLayout .nested ⟨"../out/./gen"⟩ "ts")
      = (_, .ok ()) := Prod.ext rfl (hiff.mpr hkebab)
  obtain ⟨-, hinside, hapart⟩ := hplaces _ hplaced
  exact ⟨hes, hnames, hspelled, _, hplaced, hinside, hapart.imp fun h => h.2.1⟩

end Batch

end SchemaClass
