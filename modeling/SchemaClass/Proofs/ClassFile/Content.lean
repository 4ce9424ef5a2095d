import SchemaClass.Proofs.ClassFile.Text
/-!
# Reading class files back

The text of a class file tells what is in it: the import statements, the decorators and the name of
the class, and the name, the type and the decorators of each property, all in order.  Types stand
in it as they are, so they may hold whatever else the text is made of, a token or a closing brace
for one.  Lines are what keeps the parts of a file apart, and they do as long as no part has a line
break itself.

* `Content`, `ClassFile.content`: what is in a file;
* `Content.read`: what is read off a text;
* `readProperties_linesAll`: the properties of a class are read back;
* `ClassFile.Printable`: files whose parts fit on lines;
* `read_text`: the text of such a file is read as its content.
-/

namespace SchemaClass

open Text Source

/-! ## 1. Contents and texts -/

/-- What is in the text of a property. -/
structure PropertyContent where
  name : String
  type : String
  decorators : List String
  deriving DecidableEq, Repr

/-- What is in the text of a class file. -/
structure Content where
  statements : List String
  decorators : List String
  className : String
  properties : List PropertyContent
  deriving DecidableEq, Repr

/-- What a file is rendered from. -/
def ClassFile.content (f : ClassFile) : Content where
  statements := f.imports.records.map (·.statement)
  decorators := f.entity.tags.map fun t => (Decorator.ofTag t).text
  className := f.entity.className
  properties := f.entity.properties.map fun p =>
    ⟨p.name, p.type, p.tags.map fun t => (Decorator.ofTag t).text⟩

/-- A text without its end, if that is `ending`. -/
def dropEnd? (ending text : List Char) : Option (List Char) :=
  (dropToken? ending.reverse text.reverse).map List.reverse

theorem dropEnd?_append (text ending : List Char) :
    dropEnd? ending (text ++ ending) = some text := by
  have hdrop : dropToken? ending.reverse (text ++ ending).reverse = some text.reverse :=
    dropToken?_eq_some.mpr (List.reverse_append ..)
  rw [dropEnd?, hdrop, Option.map_some, List.reverse_reverse]

namespace Content

/-- Whether a line is that of a decorator. -/
def isDecorator (line : List Char) : Bool := line.head? == some '@'

/-- The name of the class that a line opens. -/
def readHeader (line : List Char) : Option String := do
  let behind ← dropToken? "export class ".toList line
  return String.ofList (← dropEnd? " \x7b".toList behind)

/-- The name and the type of a property. -/
def readProperty (line : List Char) : Option (String × String) := do
  let (name, behind) ← cutAt ": ".toList line
  return (String.ofList name, String.ofList (← dropEnd? ";".toList behind))

/-- The properties of a class up to its end, where the next one has decorators already. -/
def readProperties (decorators : List String) : List (List Char) → Option (List PropertyContent)
  | [] => none
  | line :: lines =>
    match dropToken? "  ".toList line with
    | some text =>
      if isDecorator text then readProperties (decorators ++ [String.ofList text]) lines
      else do
        let (name, type) ← readProperty text
        return ⟨name, type, decorators⟩ :: (← readProperties [] lines)
    | none =>
      if line = [] then readProperties decorators lines
      else if line = ['\x7d'] ∧ lines = [[]] ∧ decorators = [] then some []
      else none

/-- What is in a text: statements up to the first empty line, decorators, and a class. -/
def read (text : String) : Option Content :=
  let lines := text.toList.splitOn '\n'
  match lines.dropWhile (!·.isEmpty) with
  | [] => none
  | _ :: body =>
    match body.dropWhile isDecorator with
    | [] => none
    | header :: inside => do
      return {
        statements := (lines.takeWhile (!·.isEmpty)).map String.ofList
        decorators := (body.takeWhile isDecorator).map String.ofList
        className := ← readHeader header
        properties := ← readProperties [] inside }

/-! ## 2. Reading lines -/

theorem readHeader_header (c : ClassDeclaration) : readHeader c.header.toList = some c.name := by
  have hheader : c.header.toList
      = "export class ".toList ++ (c.name.toList ++ " \x7b".toList) := by
    rw [ClassDeclaration.header, String.toList_append, String.toList_append, List.append_assoc]
  have hdrop := dropToken?_eq_some.mpr hheader
  rw [readHeader, hdrop]
  simp [dropEnd?_append]

theorem isDecorator_text (d : Decorator) : isDecorator d.text.toList = true := by
  simp [isDecorator, Decorator.text]

/-- The name of a property can be told from what follows. -/
def IsLabel (name : String) : Prop := ':' ∉ name.toList ∧ isDecorator name.toList = false

/-- What stands in front of a token is passed, if it has not the token's first character. -/
theorem cutAt_append_append {t : Char} {ts : List Char} : ∀ {before : List Char}, t ∉ before →
    ∀ behind, cutAt (t :: ts) (before ++ (t :: ts ++ behind)) = some (before, behind)
  | [], _, behind => ClassFile.cutAt_append (t :: ts) behind
  | c :: before, h, behind => by
    obtain ⟨hc, hbefore⟩ := not_or.mp (mt List.mem_cons.mpr h)
    have hdrop : dropToken? (t :: ts) (c :: (before ++ (t :: ts ++ behind))) = none := if_neg hc
    rw [List.cons_append, cutAt, hdrop]
    dsimp only
    rw [cutAt_append_append hbefore behind]
    rfl

theorem readProperty_text {p : PropertyDeclaration} (h : IsLabel p.name) :
    readProperty p.text.toList = some (p.name, p.type) := by
  have htext : p.text.toList
      = p.name.toList ++ (": ".toList ++ (p.type.toList ++ ";".toList)) := by
    simp [PropertyDeclaration.text]
  have hcut : cutAt ": ".toList p.text.toList = some (p.name.toList, p.type.toList ++ ";".toList) :=
    htext ▸ cutAt_append_append h.1 _
  rw [readProperty, hcut]
  simp [dropEnd?_append]

/-- An indented line is that of a decorator or of a property. -/
theorem readProperties_indented (decorators : List String) (s : String) (lines : List (List Char)) :
    readProperties decorators (("  " ++ s).toList :: lines)
      = if isDecorator s.toList then readProperties (decorators ++ [s]) lines
        else do
          let (name, type) ← readProperty s.toList
          return ⟨name, type, decorators⟩ :: (← readProperties [] lines) := by
  have hdrop : dropToken? "  ".toList ("  " ++ s).toList = some s.toList :=
    dropToken?_eq_some.mpr (String.toList_append ..)
  rw [readProperties, hdrop]
  dsimp only
  rw [String.ofList_toList]

theorem readProperties_decorators (lines : List (List Char)) : ∀ (ds : List Decorator)
    (decorators : List String),
    readProperties decorators ((ds.map fun d => "  " ++ d.text).map String.toList ++ lines)
      = readProperties (decorators ++ ds.map (·.text)) lines
  | [], decorators => by
    rw [List.map_nil, List.map_nil, List.nil_append, List.map_nil, List.append_nil]
  | d :: ds, decorators => by
    rw [List.map_cons, List.map_cons, List.cons_append, readProperties_indented,
      if_pos (isDecorator_text d), readProperties_decorators lines ds, List.append_assoc]
    rfl

/-- What is in a property. -/
def contentOf (p : PropertyDeclaration) : PropertyContent :=
  ⟨p.name, p.type, p.decorators.map (·.text)⟩

/-- The line of a property is not that of a decorator. -/
theorem not_isDecorator_property {p : PropertyDeclaration} (h : IsLabel p.name) :
    isDecorator p.text.toList = false := by
  have htext : p.text.toList = p.name.toList ++ (": " ++ p.type ++ ";").toList := by
    simp [PropertyDeclaration.text]
  rw [htext]
  cases hname : p.name.toList with
  | nil => simp [isDecorator]
  | cons c cs =>
    have := h.2
    rw [hname] at this
    exact this

/-- **A property is read back**, and then the others are. -/
theorem readProperties_lines {p : PropertyDeclaration} (h : IsLabel p.name)
    (lines : List (List Char)) :
    readProperties [] (p.lines.map String.toList ++ lines)
      = (readProperties [] lines).map (contentOf p :: ·) := by
  rw [PropertyDeclaration.lines, List.map_append, List.append_assoc, readProperties_decorators,
    List.map_singleton, List.singleton_append, List.nil_append, readProperties_indented,
    not_isDecorator_property h, if_neg Bool.false_ne_true, readProperty_text h]
  cases readProperties [] lines <;> rfl

theorem readProperties_linesBehind (lines : List (List Char)) :
    ∀ (ps : List PropertyDeclaration) (previous : PropertyDeclaration),
    (∀ p ∈ ps, IsLabel p.name) →
    readProperties [] ((PropertyDeclaration.linesBehind previous ps).map String.toList ++ lines)
      = (readProperties [] lines).map (ps.map contentOf ++ ·)
  | [], _, _ => by
    rw [PropertyDeclaration.linesBehind]
    exact Option.map_id'.symm
  | p :: ps, previous, h => by
    obtain ⟨hp, hps⟩ := List.forall_mem_cons.mp h
    have hrest := readProperties_linesBehind lines ps p hps
    rw [PropertyDeclaration.linesBehind, List.append_assoc, List.map_append, List.map_append,
      List.append_assoc, List.append_assoc]
    have hblank : readProperties [] ((if previous.isDecorated || p.isDecorated then [""] else []).map
        String.toList ++ (p.lines.map String.toList
          ++ ((PropertyDeclaration.linesBehind p ps).map String.toList ++ lines)))
        = readProperties [] (p.lines.map String.toList
          ++ ((PropertyDeclaration.linesBehind p ps).map String.toList ++ lines)) := by
      split <;> rfl
    rw [hblank, readProperties_lines hp, hrest, Option.map_map]
    rfl

/-- **The properties of a class are read back**, all of them and in order. -/
theorem readProperties_linesAll {ps : List PropertyDeclaration} (h : ∀ p ∈ ps, IsLabel p.name) :
    readProperties [] ((PropertyDeclaration.linesAll ps ++ ["\x7d"]).map String.toList ++ [[]])
      = some (ps.map contentOf) := by
  have hend : readProperties [] (["\x7d"].map String.toList ++ [[]]) = some [] := by decide
  rw [List.map_append, List.append_assoc]
  cases ps with
  | nil => exact hend
  | cons p ps =>
    obtain ⟨hp, hps⟩ := List.forall_mem_cons.mp h
    rw [PropertyDeclaration.linesAll, List.map_append, List.append_assoc, readProperties_lines hp,
      readProperties_linesBehind _ ps p hps, hend]
    simp

end Content

/-! ## 3. One file -/

open Content

namespace ClassFile

/-- A file whose parts fit on lines, and whose properties have names that can be told. -/
structure Printable (f : ClassFile) : Prop where
  records : f.imports.records ≠ []
  statements : ∀ r ∈ f.imports.records, IsLine r.statement
  decorators : ∀ t ∈ f.entity.tags, IsLine (Decorator.ofTag t).text
  className : IsLine f.entity.className
  labels : ∀ p ∈ f.entity.properties, IsLabel p.name ∧ IsLine p.name
  types : ∀ p ∈ f.entity.properties, IsLine p.type
  propertyDecorators : ∀ p ∈ f.entity.properties, ∀ t ∈ p.tags, IsLine (Decorator.ofTag t).text

/-- The lines of the text of a file. -/
def lines (f : ClassFile) : List String :=
  f.imports.records.map (·.statement) ++ "" :: (ClassDeclaration.ofEntity f.entity).lines

theorem toList_text {f : ClassFile} (h : f.imports.records ≠ []) :
    f.text.toList = ofLines f.lines := by
  have hne : f.imports.records.map Template.classFile.statement ≠ [] := by simpa using h
  have hlines : f.lines
      = f.imports.records.map Template.classFile.statement
        ++ ([""] ++ (ClassDeclaration.ofEntity f.entity).lines) := rfl
  rw [text, String.toList_ofList, declaration, ClassDeclaration.toList_text, statements, hlines,
    ofLines_append, ofLines_of_ne_nil hne, ofLines_append, List.append_assoc]
  rfl

theorem Printable.fitsLines {f : ClassFile} (h : f.Printable) :
    (ClassDeclaration.ofEntity f.entity).FitsLines where
  name := h.className
  decorators := List.forall_mem_map.mpr h.decorators
  properties := List.forall_mem_map.mpr fun p hp =>
    ⟨(h.labels p hp).2, h.types p hp, List.forall_mem_map.mpr (h.propertyDecorators p hp)⟩

/-- **No line of a file has a line break**, if no part has. -/
theorem isLine_lines {f : ClassFile} (h : f.Printable) : ∀ l ∈ f.lines, IsLine l := by
  intro l hl
  rcases List.mem_append.mp hl with hl | hl
  · obtain ⟨r, hr, rfl⟩ := List.mem_map.mp hl
    exact h.statements r hr
  · rcases List.mem_cons.mp hl with rfl | hl
    · decide
    · exact ClassDeclaration.isLine_lines h.fitsLines l hl

/-- **The text of a file is read as its content.** -/
theorem read_text {f : ClassFile} (h : f.Printable) : Content.read f.text = some f.content := by
  have hstatements : ∀ l ∈ f.content.statements.map String.toList, (!l.isEmpty) = true := by
    intro l hl
    obtain ⟨s, hs, rfl⟩ := List.mem_map.mp hl
    obtain ⟨r, -, rfl⟩ := List.mem_map.mp hs
    rw [ImportRecord.statement]
    split <;> simp
  have hdecorators : ∀ l ∈ f.content.decorators.map String.toList, isDecorator l = true := by
    intro l hl
    obtain ⟨s, hs, rfl⟩ := List.mem_map.mp hl
    obtain ⟨t, -, rfl⟩ := List.mem_map.mp hs
    exact isDecorator_text _
  have hheader : isDecorator (ClassDeclaration.ofEntity f.entity).header.toList = false := by
    simp [isDecorator, ClassDeclaration.header]
  have hlabels : ∀ p ∈ (ClassDeclaration.ofEntity f.entity).properties, IsLabel p.name := by
    intro p hp
    obtain ⟨q, hq, rfl⟩ := List.mem_map.mp hp
    exact (h.labels q hq).1
  have hlines : f.text.toList.splitOn '\n' = f.content.statements.map String.toList
      ++ [] :: (f.content.decorators.map String.toList
        ++ (ClassDeclaration.ofEntity f.entity).header.toList
          :: ((PropertyDeclaration.linesAll (ClassDeclaration.ofEntity f.entity).properties
            ++ ["\x7d"]).map String.toList ++ [[]])) := by
    rw [toList_text h.records, splitOn_ofLines (isLine_lines h), lines, ClassDeclaration.lines]
    simp [content, ClassDeclaration.ofEntity]
  -- no statement is empty, and the header is no decorator: each part ends where the next begins
  have hempty : (!([] : List Char).isEmpty) = false := rfl
  rw [Content.read, hlines]
  simp only [takeWhile_stopped hstatements hempty, dropWhile_stopped hstatements hempty,
    takeWhile_stopped hdecorators hheader, dropWhile_stopped hdecorators hheader,
    readHeader_header, readProperties_linesAll hlabels]
  simp [content, ClassDeclaration.ofEntity, PropertyDeclaration.ofProperty, contentOf]

end ClassFile

end SchemaClass
