import Mathlib.Data.List.TakeWhile
import SchemaClass.Proofs.ClassFile.Text
import SchemaClass.Proofs.Import.Resolution
import SchemaClass.Proofs.OrderedSet
/-!
# Splicing imports into a file

A file is rendered once it has a place and waits for no other file, by a template that says where its
imports go.  They go to the first token of the body and nowhere else: what stands around it is kept
as it is, further tokens included, and what is put there is not looked at again.

In a class file the token is what the body begins with.  So a property whose type is the token keeps
its type, and a module that is named like it keeps its name.

* `ImportList.head?_unresolved_iff`: the first record that waits is the one that is complained of;
* `ClassFile.Renders`: what rendering answers, by any template;
* `ClassFile.render_eq_iff`: it answers this for every file and every template;
* `ClassFile.spliced_of_render`: the class stands in the text of its file as it is, and so does each
  property with its type;
* `ClassFile.splices_once`: both together.
-/

namespace SchemaClass

open Text Source OrderedSet

/-! ## 1. The first record that waits -/

/-- The first record that waits for an entity. -/
theorem ImportList.head?_unresolved_iff {l : ImportList} {r : ImportRecord} :
    l.unresolved.head? = some r ↔ IsFirst (fun q => ¬ IsModuleName q.origin) l.records r := by
  have hwaits : (fun q : ImportRecord => q.isPlaceholder)
      = fun q => decide (¬ IsModuleName q.origin) := by
    funext q
    rw [Bool.eq_iff_iff, isPlaceholder_iff_not_isModuleName, decide_eq_true_iff]
  rw [unresolved, List.head?_filter, hwaits, find?_eq_some_iff_isFirst]

/-! ## 2. Rendering by any template -/

namespace ClassFile

variable {template : Template} {f : ClassFile} {r : Except GenerateError String}

/-- **What rendering answers.**  Three things can be missing, and the first that is decides; then the
imports stand for the first token of the body. -/
inductive Renders (template : Template) (f : ClassFile) : Except GenerateError String → Prop
  | unplaced : f.location = none → Renders template f (.error (.unplaced f.entity.name))
  | unresolved {location : Location} {r : ImportRecord} : f.location = some location →
      IsFirst (fun q => ¬ IsModuleName q.origin) f.imports.records r →
      Renders template f (.error (.unresolvedImport f.entity.name r.origin))
  | missingToken {location : Location} : f.location = some location →
      (∀ q ∈ f.imports.records, IsModuleName q.origin) →
      ¬ importsToken.toList <:+: (template.body f.entity).toList →
      Renders template f (.error (.missingToken f.entity.name))
  | imported {location : Location} {before behind : List Char} : f.location = some location →
      (∀ q ∈ f.imports.records, IsModuleName q.origin) → f.imports.records ≠ [] →
      IsFirstCut importsToken.toList (template.body f.entity).toList before behind →
      Renders template f (.ok (String.ofList (before
        ++ ("\n".intercalate (f.imports.records.map template.statement)).toList ++ behind)))
  | bare {location : Location} {before behind rest : List Char} {n : Nat} :
      f.location = some location → f.imports.records = [] →
      IsFirstCut importsToken.toList (template.body f.entity).toList before behind →
      before ++ behind = List.replicate n '\n' ++ rest → rest.head? ≠ some '\n' →
      Renders template f (.ok (String.ofList rest))

/-- What is left of a text without the line breaks in front of it. -/
theorem withoutBreaks_eq_iff {text rest : List Char} :
    text.dropWhile (· == '\n') = rest ↔
      ∃ n, text = List.replicate n '\n' ++ rest ∧ rest.head? ≠ some '\n' := by
  constructor
  · rintro rfl
    refine ⟨(text.takeWhile (· == '\n')).length, ?_, ?_⟩
    · have hbreaks : text.takeWhile (· == '\n')
          = List.replicate (text.takeWhile (· == '\n')).length '\n' :=
        List.eq_replicate_iff.mpr ⟨rfl, fun c hc => by simpa using List.mem_takeWhile_imp hc⟩
      rw [← hbreaks, List.takeWhile_append_dropWhile]
    · intro hhead
      have hnot := List.head?_dropWhile_not (· == '\n') text
      rw [hhead] at hnot
      exact Bool.false_ne_true hnot.symm
  · rintro ⟨n, rfl, hhead⟩
    rw [List.dropWhile_append_of_pos fun c hc => by simpa using (List.mem_replicate.mp hc).2]
    cases rest with
    | nil => rfl
    | cons c rest => exact List.dropWhile_cons_of_neg (by simpa using hhead)

/-- Every file is rendered in one of these ways. -/
theorem renders_render (template : Template) (f : ClassFile) :
    f.Renders template (f.render template) := by
  cases hlocation : f.location with
  | none =>
    rw [render, hlocation]
    exact .unplaced hlocation
  | some location =>
    cases hwaits : f.imports.unresolved with
    | cons r rs =>
      have hhead : f.imports.unresolved.head? = some r := by rw [hwaits, List.head?_cons]
      rw [render, hlocation, hwaits]
      exact .unresolved hlocation (ImportList.head?_unresolved_iff.mp hhead)
    | nil =>
      have hmodules := ImportList.unresolved_eq_nil_iff_modules.mp hwaits
      rw [render_resolved hlocation hwaits]
      cases hcut : cutAt importsToken.toList (template.body f.entity).toList with
      | none => exact .missingToken hlocation hmodules (cutAt_eq_none_iff.mp hcut)
      | some sides =>
        obtain ⟨before, behind⟩ := sides
        have hfirst := cutAt_eq_some_iff.mp hcut
        dsimp only [Option.elim_some]
        rw [splice]
        split
        · next hempty =>
          obtain ⟨n, htext, hhead⟩ := withoutBreaks_eq_iff.mp
            (rfl : (before ++ behind).dropWhile (· == '\n') = _)
          exact .bare hlocation (List.isEmpty_iff.mp hempty) hfirst htext hhead
        · next hempty =>
          exact .imported hlocation hmodules (mt List.isEmpty_iff.mpr hempty) hfirst

/-- No file is rendered in another way. -/
theorem render_of_renders (h : f.Renders template r) : f.render template = r := by
  cases h with
  | unplaced hlocation => rw [render, hlocation]
  | unresolved hlocation hfirst =>
    obtain ⟨rs, hwaits⟩ :=
      List.head?_eq_some_iff.mp (ImportList.head?_unresolved_iff.mpr hfirst)
    rw [render, hlocation, hwaits]
  | missingToken hlocation hmodules htoken =>
    have hresolved := ImportList.unresolved_eq_nil_iff_modules.mpr hmodules
    rw [render_resolved hlocation hresolved, cutAt_eq_none_iff.mpr htoken, Option.elim_none]
  | imported hlocation hmodules hrecords hcut =>
    have hresolved := ImportList.unresolved_eq_nil_iff_modules.mpr hmodules
    have hempty : ¬ f.imports.records.isEmpty = true := mt List.isEmpty_iff.mp hrecords
    rw [render_resolved hlocation hresolved, cutAt_eq_some_iff.mpr hcut]
    dsimp only [Option.elim_some]
    rw [splice, if_neg hempty, statements]
  | bare hlocation hrecords hcut htext hhead =>
    have hresolved : f.imports.unresolved = [] := by simp [ImportList.unresolved, hrecords]
    rw [render_resolved hlocation hresolved, cutAt_eq_some_iff.mpr hcut]
    dsimp only [Option.elim_some]
    rw [splice, if_pos (List.isEmpty_iff.mpr hrecords), withoutBreaks_eq_iff.mpr ⟨_, htext, hhead⟩]

theorem render_eq_iff : f.render template = r ↔ f.Renders template r :=
  ⟨fun h => h ▸ renders_render template f, render_of_renders⟩

end ClassFile

/-! ## 3. Class files -/

namespace ClassFile

/-- What is in the text of a class file: imports, if there are any, and the class, where each
property has its type. -/
structure Spliced (f : ClassFile) (text : String) : Prop where
  text_eq : text = (if f.imports.records = [] then "" else f.statements .classFile ++ "\n\n")
    ++ (ClassDeclaration.ofEntity f.entity).text
  types : ∀ p ∈ f.entity.properties, (p.name ++ ": " ++ p.type ++ ";").toList <:+:
    (ClassDeclaration.ofEntity f.entity).text.toList

/-- In a class file nothing stands before the token. -/
theorem sides_of_classFile {e : Entity} {before behind : List Char}
    (h : IsFirstCut importsToken.toList (Template.classFile.body e).toList before behind) :
    before = [] ∧ behind = declaration e := by
  have hcut := cutAt_eq_some_iff.mpr h
  rw [cutAt_body] at hcut
  exact ⟨(Prod.mk.inj (Option.some.inj hcut)).1.symm, (Prod.mk.inj (Option.some.inj hcut)).2.symm⟩

/-- **The imports are put in front of the class**, and the class is as it is without them. -/
theorem spliced_of_render {f : ClassFile} {text : String} (h : f.render .classFile = .ok text) :
    f.Spliced text := by
  constructor
  · cases render_eq_iff.mp h with
    | imported _ _ hrecords hcut =>
      obtain ⟨rfl, rfl⟩ := sides_of_classFile hcut
      rw [if_neg hrecords, ← String.toList_inj]
      simp [declaration, statements]
    | bare _ hrecords hcut htext hhead =>
      obtain ⟨rfl, rfl⟩ := sides_of_classFile hcut
      -- the two line breaks behind the token are all that there are in front of the class
      have hclass : (declaration f.entity).dropWhile (· == '\n')
          = (ClassDeclaration.ofEntity f.entity).text.toList :=
        withoutBreaks_eq_iff.mpr ⟨2, rfl, ClassDeclaration.head?_text _⟩
      rw [List.nil_append] at htext
      rw [if_pos hrecords, String.empty_append, ← withoutBreaks_eq_iff.mpr ⟨_, htext, hhead⟩, hclass,
        String.ofList_toList]
  · intro p hp
    have hdeclared : PropertyDeclaration.ofProperty p
        ∈ (ClassDeclaration.ofEntity f.entity).properties := List.mem_map_of_mem hp
    have htext : p.name ++ ": " ++ p.type ++ ";" = (PropertyDeclaration.ofProperty p).text := rfl
    rw [htext]
    exact ClassDeclaration.text_infix_text hdeclared

/-- **The imports are spliced in once.**  By any template they stand for the first token of the body,
and nothing else is replaced, neither in the body nor in what has been put there.  By the template
of class files this leaves every property its type, which may be the token itself. -/
theorem splices_once (f : ClassFile) (template : Template) :
    (∀ r, f.render template = r ↔ f.Renders template r) ∧
      ∀ text, f.render .classFile = .ok text → f.Spliced text :=
  ⟨fun _ => render_eq_iff, fun _ => spliced_of_render⟩

/-- A file with the token in a type, in a symbol and in the name of a module. -/
def tokens : ClassFile where
  entity := ⟨"Note", [⟨"text", importsToken, .object, []⟩], [], [], []⟩
  location := some ⟨⟨"/project"⟩, "note.ts"⟩
  imports := ⟨[⟨importsToken, [importsToken]⟩]⟩

@[inherit_doc tokens]
def tokensText : String :=
  "import \x7b #!\x7bIMPORTS\x7d \x7d from \"#!\x7bIMPORTS\x7d\";\n\n" ++
    "export class Note \x7b\n  text: #!\x7bIMPORTS\x7d;\n\x7d\n"

theorem splices_once_tokens : tokens.render .classFile = .ok tokensText ∧
    tokens.Renders .classFile (.ok tokensText) ∧ tokens.Spliced tokensText := by
  have hrender : tokens.render .classFile = .ok tokensText := by rfl
  exact ⟨hrender, ((splices_once tokens .classFile).1 _).mp hrender,
    (splices_once tokens .classFile).2 _ hrender⟩

end ClassFile

end SchemaClass
