import SchemaClass.ClassFile
import SchemaClass.Proofs.Source.Builder
/-!
# The text of a class file

The body of a class file begins with the token, so a file that has a place and no placeholders is
always rendered, and its text is the import statements, an empty line and the class.

* `render_succeeds_iff`: when a file is rendered;
* `render_eq_ok`: the text of a file that is and has imports;
* `declares_render`: it declares the class of its entity.
-/

namespace SchemaClass.ClassFile

open Text Source Source.Builder Source.ClassDeclaration

/-- The text behind the token. -/
def declaration (e : Entity) : List Char :=
  '\n' :: '\n' :: (ClassDeclaration.ofEntity e).text.toList

theorem body_classFile (e : Entity) :
    (Template.classFile.body e).toList = importsToken.toList ++ declaration e := by
  have hstart : (({} : Builder).line importsToken).blank
      = ({} : Builder).behind (importsToken.toList ++ ['\n', '\n']) := by
    simp [line, blank, behind, Indentation.text, Indentation.standard]
  simp only [Template.classFile, hstart, write_behind, build, text_behind, String.toList_ofList,
    declaration, ClassDeclaration.text, List.append_assoc]
  rfl

/-- The token is found at once. -/
theorem cutAt_append (token behind : List Char) :
    Text.cutAt token (token ++ behind) = some ([], behind) :=
  Text.cutAt_eq_some_iff.mpr ⟨rfl, fun b _ _ => Nat.zero_le b.length⟩

theorem cutAt_body (e : Entity) :
    Text.cutAt importsToken.toList (Template.classFile.body e).toList
      = some ([], declaration e) := by
  rw [body_classFile, cutAt_append]

/-- A file with a place and without placeholders is rendered if there is a token. -/
theorem render_resolved {template : Template} {f : ClassFile} {location : Location}
    (hplace : f.location = some location) (hresolved : f.imports.unresolved = []) :
    f.render template = (Text.cutAt importsToken.toList (template.body f.entity).toList).elim
      (.error (.missingToken f.entity.name))
      fun (before, behind) => .ok (f.splice template before behind) := by
  rw [render, hplace, hresolved]
  dsimp only
  cases Text.cutAt importsToken.toList (template.body f.entity).toList <;> rfl

/-- **What keeps a file from being rendered**: that it has no place, or waits for another. -/
theorem render_succeeds_iff {f : ClassFile} :
    (∃ text, f.render .classFile = .ok text) ↔
      f.location.isSome = true ∧ f.imports.unresolved = [] := by
  cases hlocation : f.location with
  | none => simp [render, hlocation]
  | some location =>
    cases hwaits : f.imports.unresolved with
    | nil =>
      rw [render_resolved hlocation hwaits, cutAt_body]
      simp
    | cons r rs => simp [render, hlocation, hwaits]

/-- The text of a file that has imports. -/
def text (f : ClassFile) : String :=
  String.ofList ((f.statements .classFile).toList ++ declaration f.entity)

/-- **A file with a place, with imports and without placeholders is rendered.** -/
theorem render_eq_ok {f : ClassFile} {location : Location} (hplace : f.location = some location)
    (hresolved : f.imports.unresolved = []) (himports : f.imports.records ≠ []) :
    f.render .classFile = .ok f.text := by
  have hempty : ¬ f.imports.records.isEmpty = true := by simpa using himports
  rw [render_resolved hplace hresolved, cutAt_body]
  dsimp only [Option.elim_some]
  rw [splice, if_neg hempty, List.nil_append, text]

/-- A text with a line that opens an exported class of the given name. -/
def Declares (content symbol : String) : Prop :=
  ∃ before behind, content = before ++ "\nexport class " ++ symbol ++ " \x7b\n" ++ behind

/-- A line ends before the next one, whatever lines there are. -/
theorem exists_line_end : ∀ (lines : List String),
    ∃ before, '\n' :: ofLines lines = before ++ ['\n']
  | [] => ⟨[], rfl⟩
  | l :: lines => by
    obtain ⟨before, hbefore⟩ := exists_line_end lines
    refine ⟨'\n' :: l.toList ++ before, ?_⟩
    rw [List.append_assoc, ← hbefore]
    simp [ofLines]

/-- **The text of a file declares the class of its entity.** -/
theorem declares_text (f : ClassFile) : Declares f.text f.entity.className := by
  obtain ⟨before, hbefore⟩ :=
    exists_line_end ((ClassDeclaration.ofEntity f.entity).decorators.map (·.text))
  have htext : f.text.toList = (f.statements .classFile).toList ++ '\n' :: before
      ++ ("\nexport class " ++ f.entity.className ++ " \x7b\n").toList
      ++ ofLines (PropertyDeclaration.linesAll (ClassDeclaration.ofEntity f.entity).properties
        ++ ["\x7d"]) := by
    have hheader : ("\nexport class " ++ f.entity.className ++ " \x7b\n").toList
        = '\n' :: (ClassDeclaration.ofEntity f.entity).header.toList ++ ['\n'] := by
      simp [header, ClassDeclaration.ofEntity]
    rw [text, String.toList_ofList, declaration, text_eq, hheader, List.append_assoc _ ['\n'],
      List.append_assoc, ← List.cons_append, hbefore]
    simp only [List.append_assoc, List.cons_append, List.nil_append]
  refine ⟨String.ofList ((f.statements .classFile).toList ++ '\n' :: before),
    String.ofList (ofLines (PropertyDeclaration.linesAll
      (ClassDeclaration.ofEntity f.entity).properties ++ ["\x7d"])), ?_⟩
  rw [← String.toList_inj, htext]
  simp

end SchemaClass.ClassFile
