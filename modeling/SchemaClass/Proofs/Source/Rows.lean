import SchemaClass.Proofs.Text.Split
import SchemaClass.Source.ClassDeclaration
/-!
# Rows of source text

What a builder writes is a list of rows, and its depth decides what stands in front of their lines.
So each construct can be said by its rows alone, as they are at depth zero: a row goes deeper by one
more unit of indentation, and an empty row stays empty at every depth.

* `Row`, `Builder.put`: rows, and writing them at the current depth;
* `each_eq_put`, `block_eq_put`: the rows of what is written one after the other, and of a block;
* `ClassDeclaration.rows`: the rows of a class;
* `write_eq_put`: a class is written as its rows, whatever the unit and the depth are.
-/

namespace SchemaClass.Source

open Text

/-! ## 1. Rows -/

/-- A row of source text: a line, or an empty row that is never indented. -/
inductive Row where
  | line (s : String)
  | blank
  deriving DecidableEq, Repr

namespace Row

/-- What stands in a row. -/
def content : Row → String
  | line s => s
  | blank => ""

/-- A row with something in front of its line. -/
def indented (front : List Char) : Row → Row
  | line s => line (String.ofList front ++ s)
  | blank => blank

@[simp] theorem content_line (s : String) : (line s).content = s := rfl

@[simp] theorem content_blank : blank.content = "" := rfl

@[simp] theorem indented_line (front : List Char) (s : String) :
    (line s).indented front = line (String.ofList front ++ s) := rfl

@[simp] theorem indented_blank (front : List Char) : blank.indented front = blank := rfl

theorem indented_indented (front before : List Char) (r : Row) :
    (r.indented front).indented before = r.indented (before ++ front) := by
  cases r <;> simp [String.append_assoc]

theorem map_indented_nil (rows : List Row) : rows.map (indented []) = rows := by
  have hid : indented [] = id := by
    funext r
    cases r <;> simp
  rw [hid, List.map_id]

end Row

/-- The text of rows, each with its end. -/
def ofRows (rows : List Row) : List Char := ofLines (rows.map Row.content)

theorem ofRows_append (rows more : List Row) :
    ofRows (rows ++ more) = ofRows rows ++ ofRows more := by
  rw [ofRows, List.map_append, ofLines_append, ofRows, ofRows]

/-- **Rows are read back from their text**, with nothing behind the last one. -/
theorem splitOn_ofRows {rows : List Row} (h : ∀ r ∈ rows, IsLine r.content) :
    (ofRows rows).splitOn '\n' = rows.map (·.content.toList) ++ [[]] := by
  rw [ofRows, splitOn_ofLines (List.forall_mem_map.mpr h), List.map_map]
  rfl

namespace Indentation

theorem text_zero (i : Indentation) : i.text 0 = [] := by
  cases i <;> simp [text]

/-- **The indentation of a depth is made of units.** -/
theorem text_eq_flatten (i : Indentation) (depth : Nat) :
    i.text depth = (List.replicate depth (i.text 1)).flatten := by
  cases i with
  | spaces width => simp [text, Nat.mul_comm]
  | tab => simp [text]

theorem text_succ (i : Indentation) (depth : Nat) :
    i.text (depth + 1) = i.text depth ++ i.text 1 := by
  rw [text_eq_flatten i (depth + 1), text_eq_flatten i depth, List.replicate_succ',
    List.flatten_append, List.flatten_singleton]

end Indentation

/-! ## 2. Writing rows -/

namespace Builder

/-- Writes rows at the current depth. -/
def put (b : Builder) (rows : List Row) : Builder :=
  { b with text := b.text ++ ofRows (rows.map (Row.indented (b.indentation.text b.depth))) }

variable (b : Builder)

@[simp] theorem indentation_put (rows : List Row) : (b.put rows).indentation = b.indentation := rfl

theorem put_nil : b.put [] = b := by
  rw [put, List.map_nil, ofRows, List.map_nil, ofLines, List.flatMap_nil, List.append_nil]

theorem put_append (rows more : List Row) : b.put (rows ++ more) = (b.put rows).put more := by
  simp only [put, List.map_append, ofRows_append, List.append_assoc]

theorem line_eq_put (s : String) : b.line s = b.put [.line s] := by
  simp [line, put, ofRows, ofLines]

theorem blank_eq_put : b.blank = b.put [.blank] := rfl

/-- What an empty builder writes at depth zero is the text of the rows. -/
theorem text_put_start (i : Indentation) (rows : List Row) :
    (({ indentation := i } : Builder).put rows).text = ofRows rows := by
  rw [put, Indentation.text_zero, Row.map_indented_nil]
  exact List.nil_append _

/-- Rows are written deeper by one more unit in front. -/
theorem put_indent (rows : List Row) : b.indent.put rows
    = (b.put (rows.map (Row.indented (b.indentation.text 1)))).indent := by
  have hindented : (rows.map (Row.indented (b.indentation.text 1))).map
      (Row.indented (b.indentation.text b.depth))
        = rows.map (Row.indented (b.indentation.text (b.depth + 1))) := by
    rw [List.map_map, Indentation.text_succ b.indentation b.depth]
    exact List.map_congr_left fun r _ => Row.indented_indented _ _ r
  rw [put, put, hindented]
  rfl

theorem dedent_indent : b.indent.dedent = b := rfl

/-- **What is written for each item**, one after the other. -/
theorem each_eq_put {α : Type} {write : Builder → α → Builder} {rows : α → List Row}
    {i : Indentation} (h : ∀ (b : Builder) (a : α), b.indentation = i → write b a = b.put (rows a)) :
    ∀ (items : List α) (b : Builder), b.indentation = i →
      b.each items write = b.put (items.flatMap rows)
  | [], b, _ => b.put_nil.symm
  | a :: items, b, hb => by
    have hfirst : write b a = b.put (rows a) := h b a hb
    rw [each, List.foldl_cons, hfirst, List.flatMap_cons, put_append]
    exact each_eq_put h items (b.put (rows a)) hb

/-- The rows of a block: its body stands one unit deeper than the header and the closing line. -/
def blockRows (i : Indentation) (header close : String) (body : List Row) : List Row :=
  .line header :: body.map (Row.indented (i.text 1)) ++ [.line close]

/-- **A block ends at the depth of its header.** -/
theorem block_eq_put {body : Builder → Builder} {rows : List Row}
    (h : ∀ b' : Builder, b'.indentation = b.indentation → body b' = b'.put rows)
    (header close : String) :
    b.block header close body = b.put (blockRows b.indentation header close rows) := by
  rw [block, h (b.line header).indent rfl, put_indent, dedent_indent, line_eq_put, line_eq_put,
    ← put_append, ← put_append]
  rfl

end Builder

/-! ## 3. Classes -/

open Builder

theorem writeDecorators_eq_put (b : Builder) (ds : List Decorator) :
    writeDecorators b ds = b.put (ds.map fun d => .line d.text) := by
  rw [writeDecorators, each_eq_put (fun b d _ => b.line_eq_put d.text) ds b rfl, List.map_eq_flatMap]

namespace PropertyDeclaration

/-- The rows of a property: its decorators and the property itself. -/
def rows (p : PropertyDeclaration) : List Row :=
  p.decorators.map (fun d => .line d.text) ++ [.line p.text]

/-- What stands between two neighbours: an empty row if one of them is decorated. -/
def gap (p q : PropertyDeclaration) : List Row :=
  if p.isDecorated || q.isDecorated then [.blank] else []

/-- The rows of the properties of a class. -/
def allRows : List PropertyDeclaration → List Row
  | [] => []
  | [p] => p.rows
  | p :: q :: ps => p.rows ++ gap p q ++ allRows (q :: ps)

theorem write_eq_put_rows (b : Builder) (p : PropertyDeclaration) : write b p = b.put p.rows := by
  rw [write, writeDecorators_eq_put, line_eq_put, ← put_append, rows]

theorem writeBehind_eq_put : ∀ (ps : List PropertyDeclaration) (p : PropertyDeclaration)
    (b : Builder), writeBehind p (write b p) ps = b.put (allRows (p :: ps))
  | [], p, b => write_eq_put_rows b p
  | q :: ps, p, b => by
    have hgap : (if p.isDecorated || q.isDecorated then (write b p).blank else write b p)
        = b.put (p.rows ++ gap p q) := by
      rw [write_eq_put_rows, gap, put_append]
      split
      · exact blank_eq_put _
      · exact (put_nil _).symm
    rw [writeBehind, hgap, writeBehind_eq_put ps q, allRows, put_append, put_append, put_append]

theorem writeAll_eq_put (ps : List PropertyDeclaration) (b : Builder) :
    writeAll b ps = b.put (allRows ps) := by
  cases ps with
  | nil => exact b.put_nil.symm
  | cons p ps => exact writeBehind_eq_put ps p b

end PropertyDeclaration

namespace ClassDeclaration

/-- The rows of a class. -/
def rows (i : Indentation) (c : ClassDeclaration) : List Row :=
  c.decorators.map (fun d => .line d.text) ++
    blockRows i c.header "\x7d" (PropertyDeclaration.allRows c.properties)

/-- **A class is written as its rows**, whatever the unit and the depth are. -/
theorem write_eq_put (c : ClassDeclaration) (b : Builder) :
    c.write b = b.put (c.rows b.indentation) := by
  have hbody : ∀ b' : Builder,
      b'.indentation = (writeDecorators b c.decorators).indentation →
        PropertyDeclaration.writeAll b' c.properties
          = b'.put (PropertyDeclaration.allRows c.properties) := fun b' _ =>
    PropertyDeclaration.writeAll_eq_put c.properties b'
  rw [write, block_eq_put _ hbody, writeDecorators_eq_put, ← put_append]
  rfl

end ClassDeclaration

/-! ## 4. Rows without line breaks -/

theorem isLine_blank : IsLine Row.blank.content := List.not_mem_nil

theorem isLine_indented (i : Indentation) {r : Row} (h : IsLine r.content) :
    IsLine (r.indented (i.text 1)).content := by
  cases r with
  | line s =>
    refine isLine_append.mpr ⟨?_, h⟩
    rw [IsLine, String.toList_ofList]
    intro hbreak
    cases i with
    | spaces width => cases List.eq_of_mem_replicate hbreak
    | tab => cases List.eq_of_mem_replicate hbreak
  | blank => exact h

theorem isLine_blockRows {i : Indentation} {header close : String} {body : List Row}
    (hheader : IsLine header) (hclose : IsLine close) (hbody : ∀ r ∈ body, IsLine r.content) :
    ∀ r ∈ blockRows i header close body, IsLine r.content := by
  intro r hr
  rw [blockRows, List.cons_append] at hr
  rcases List.mem_cons.mp hr with rfl | hr
  · exact hheader
  rcases List.mem_append.mp hr with hr | hr
  · obtain ⟨inner, hinner, rfl⟩ := List.mem_map.mp hr
    exact isLine_indented i (hbody inner hinner)
  · rw [List.mem_singleton.mp hr]
    exact hclose

/-- Only what stands between properties is no row of one of them. -/
theorem PropertyDeclaration.mem_allRows {r : Row} : ∀ {ps : List PropertyDeclaration},
    r ∈ allRows ps → r = .blank ∨ ∃ p ∈ ps, r ∈ p.rows
  | [], hr => absurd hr List.not_mem_nil
  | [p], hr => Or.inr ⟨p, List.mem_singleton_self p, hr⟩
  | p :: q :: ps, hr => by
    rw [allRows, List.append_assoc] at hr
    rcases List.mem_append.mp hr with hr | hr
    · exact Or.inr ⟨p, List.mem_cons_self, hr⟩
    rcases List.mem_append.mp hr with hr | hr
    · rw [gap] at hr
      split at hr
      · exact Or.inl (List.mem_singleton.mp hr)
      · exact absurd hr List.not_mem_nil
    · rcases mem_allRows hr with hblank | ⟨other, hother, hr⟩
      · exact Or.inl hblank
      · exact Or.inr ⟨other, List.mem_cons_of_mem p hother, hr⟩

/-- A class none of whose parts has a line break. -/
structure ClassDeclaration.FitsLines (c : ClassDeclaration) : Prop where
  name : IsLine c.name
  decorators : ∀ d ∈ c.decorators, IsLine d.text
  properties : ∀ p ∈ c.properties, IsLine p.name ∧ IsLine p.type ∧ ∀ d ∈ p.decorators, IsLine d.text

/-- **No row of a class has a line break**, if no part has. -/
theorem ClassDeclaration.isLine_rows {c : ClassDeclaration} (h : c.FitsLines) {i : Indentation} :
    ∀ r ∈ c.rows i, IsLine r.content := by
  have hheader : IsLine c.header := by
    rw [header, isLine_append, isLine_append]
    exact ⟨⟨by decide, h.name⟩, by decide⟩
  have hproperties : ∀ r ∈ PropertyDeclaration.allRows c.properties, IsLine r.content := by
    intro r hr
    rcases PropertyDeclaration.mem_allRows hr with rfl | ⟨p, hp, hr⟩
    · exact isLine_blank
    obtain ⟨hname, htype, hdecorators⟩ := h.properties p hp
    rcases List.mem_append.mp hr with hr | hr
    · obtain ⟨d, hd, rfl⟩ := List.mem_map.mp hr
      exact hdecorators d hd
    · rw [List.mem_singleton.mp hr, Row.content_line, PropertyDeclaration.text]
      simp only [isLine_append]
      exact ⟨⟨⟨hname, by decide⟩, htype⟩, by decide⟩
  intro r hr
  rcases List.mem_append.mp hr with hr | hr
  · obtain ⟨d, hd, rfl⟩ := List.mem_map.mp hr
    exact h.decorators d hd
  · exact isLine_blockRows hheader (by decide) hproperties r hr

end SchemaClass.Source
