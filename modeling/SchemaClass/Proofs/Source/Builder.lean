import SchemaClass.Proofs.Source.Layout
/-!
# Writing behind a text

What a builder has written is never looked at again: writing a class behind a text gives that text
and the class.  So the text of a class is that of its rows, as they are in an empty builder.

* `behind`: a builder whose text stands behind another;
* `write_behind`: a class is written behind a text as it is without;
* `toList_text`: the text of a class, line by line;
* `text_eq`: its decorators, its header, and what is inside;
* `text_infix_text`: each property is in it with its type.
-/

namespace SchemaClass.Source

namespace Builder

/-- The builder with a text in front of what has been written. -/
def behind (written : List Char) (b : Builder) : Builder := { b with text := written ++ b.text }

variable (written : List Char) (b : Builder)

@[simp] theorem text_behind : (b.behind written).text = written ++ b.text := rfl

theorem put_behind (rows : List Row) :
    (b.behind written).put rows = (b.put rows).behind written := by
  simp [behind, put]

end Builder

open Builder

/-! ## 1. Classes -/

namespace ClassDeclaration

/-- **A class is written behind a text as it is without.** -/
theorem write_behind (written : List Char) (c : ClassDeclaration) (b : Builder) :
    c.write (b.behind written) = (c.write b).behind written := by
  rw [write_eq_put, write_eq_put, put_behind]
  rfl

/-- The text of a class is that of its rows. -/
theorem toList_text_eq_ofRows (c : ClassDeclaration) :
    c.text.toList = ofRows (c.rows .standard) := by
  rw [text, build, String.toList_ofList, write_eq_put]
  exact text_put_start .standard _

end ClassDeclaration

/-! ## 2. The lines of a class -/

open Text

namespace PropertyDeclaration

/-- The lines of a property: its decorators and the property itself. -/
def lines (p : PropertyDeclaration) : List String :=
  p.decorators.map (fun d => "  " ++ d.text) ++ ["  " ++ p.text]

/-- The lines of properties behind one that is there. -/
def linesBehind (previous : PropertyDeclaration) : List PropertyDeclaration → List String
  | [] => []
  | p :: ps =>
    (if previous.isDecorated || p.isDecorated then [""] else []) ++ p.lines ++ linesBehind p ps

/-- The lines of the properties of a class. -/
def linesAll : List PropertyDeclaration → List String
  | [] => []
  | p :: ps => p.lines ++ linesBehind p ps

theorem lines_subset_linesBehind {p : PropertyDeclaration} :
    ∀ {ps : List PropertyDeclaration} (previous : PropertyDeclaration), p ∈ ps →
      p.lines ⊆ linesBehind previous ps
  | [], _, h => absurd h List.not_mem_nil
  | q :: ps, previous, h => by
    rw [linesBehind]
    rcases List.mem_cons.mp h with rfl | h
    · exact List.subset_append_of_subset_left _ (List.subset_append_right _ _)
    · exact List.subset_append_of_subset_right _ (lines_subset_linesBehind q h)

/-- No line of a property is left out. -/
theorem lines_subset_linesAll {ps : List PropertyDeclaration} {p : PropertyDeclaration}
    (h : p ∈ ps) : p.lines ⊆ linesAll ps := by
  cases ps with
  | nil => exact absurd h List.not_mem_nil
  | cons q ps =>
    rcases List.mem_cons.mp h with rfl | h
    · exact List.subset_append_left _ _
    · exact List.subset_append_of_subset_right _ (lines_subset_linesBehind q h)

theorem ownLines_standard (p : PropertyDeclaration) : p.ownLines .standard = p.lines := by
  rw [ownLines, List.map_append, List.map_map, lines]
  rfl

theorem innerLines_standard_cons : ∀ (ps : List PropertyDeclaration) (p : PropertyDeclaration),
    innerLines .standard (p :: ps) = p.lines ++ linesBehind p ps
  | [], p => by
    rw [innerLines_cons, ownLines_standard, linesBehind, innerLines_nil, List.append_nil]
    rfl
  | q :: ps, p => by
    rw [innerLines_cons, ownLines_standard, innerLines_standard_cons ps q, linesBehind,
      List.append_assoc, List.append_assoc]
    rfl

/-- The lines of properties behind two spaces. -/
theorem innerLines_standard (ps : List PropertyDeclaration) :
    innerLines .standard ps = linesAll ps := by
  cases ps with
  | nil => rfl
  | cons p ps => exact innerLines_standard_cons ps p

end PropertyDeclaration

namespace ClassDeclaration

open PropertyDeclaration

/-- The lines of a class. -/
def lines (c : ClassDeclaration) : List String :=
  c.decorators.map (·.text) ++ c.header :: (linesAll c.properties ++ ["\x7d"])

theorem layout_standard (c : ClassDeclaration) : c.layout .standard = c.lines := by
  rw [layout_eq, innerLines_standard, opening, lines, List.append_assoc, List.singleton_append]

/-- **No line of a class has a line break**, if no part has. -/
theorem isLine_lines {c : ClassDeclaration} (h : c.FitsLines) : ∀ l ∈ c.lines, IsLine l := by
  rw [← layout_standard, layout]
  exact List.forall_mem_map.mpr (isLine_rows h)

/-- **The text of a class, line by line.** -/
theorem toList_text (c : ClassDeclaration) : c.text.toList = ofLines c.lines := by
  rw [toList_text_eq_ofRows, ← layout_standard]
  rfl

/-- **The text of a class**: its decorators, its header, and what is inside. -/
theorem text_eq (c : ClassDeclaration) : c.text.toList = ofLines (c.decorators.map (·.text))
    ++ c.header.toList ++ ['\n'] ++ ofLines (linesAll c.properties ++ ["\x7d"]) := by
  have hheader : ofLines (c.header :: (linesAll c.properties ++ ["\x7d"]))
      = c.header.toList ++ ['\n'] ++ ofLines (linesAll c.properties ++ ["\x7d"]) := rfl
  rw [toList_text, lines, ofLines_append, hheader, List.append_assoc, List.append_assoc,
    List.append_assoc]

/-- **A property stands in the text of its class**, with its type as it is. -/
theorem text_infix_text {c : ClassDeclaration} {p : PropertyDeclaration} (h : p ∈ c.properties) :
    p.text.toList <:+: c.text.toList := by
  have hproperty : "  " ++ p.text ∈ p.lines := List.mem_append_right _ (List.mem_singleton_self _)
  have hline : "  " ++ p.text ∈ c.lines :=
    List.mem_append_right _ (List.mem_cons_of_mem _
      (List.mem_append_left _ (lines_subset_linesAll h hproperty)))
  have hindented : p.text.toList <:+: ("  " ++ p.text).toList := by
    rw [String.toList_append]
    exact (List.suffix_append _ _).isInfix
  rw [toList_text]
  exact hindented.trans (infix_ofLines hline)

/-- A class does not begin with an empty line. -/
theorem head?_text (c : ClassDeclaration) : c.text.toList.head? ≠ some '\n' := by
  rw [text_eq]
  cases c.decorators with
  | nil => simp [ofLines, header]
  | cons d ds => simp [ofLines, Decorator.text]

end ClassDeclaration

end SchemaClass.Source
