import SchemaClass.Proofs.Source.Rows
/-!
# Programs that write source text

A program writes lines, empty rows, items one after the other, blocks with a program inside, and
classes, nested to any depth.  It never changes the depth by hand.  Such a program always writes the
same rows: depth and what has been written before decide where they go, not what they are.

* `Program`, `Program.run`: programs, and what they do with a builder;
* `Program.rows`: the rows that a program writes at depth zero;
* `run_eq_put`: running a program is writing its rows at the current depth;
* `run_compositional`: so indentation is put in front of lines, and nothing else changes.
-/

namespace SchemaClass.Source

open Text

/-- What can be written with a builder, as long as only blocks change the depth. -/
inductive Program : Type 1 where
  | done
  | line (s : String)
  | blank
  | seq (first next : Program)
  | each {α : Type} (items : List α) (body : α → Program)
  | block (header close : String) (body : Program)
  | declare (c : ClassDeclaration)

namespace Program

/-- What a program does with a builder. -/
def run : Program → Builder → Builder
  | done, b => b
  | line s, b => b.line s
  | blank, b => b.blank
  | seq first next, b => next.run (first.run b)
  | each items body, b => b.each items fun b a => (body a).run b
  | block header close body, b => b.block header close body.run
  | declare c, b => c.write b

/-- The rows that a program writes at depth zero. -/
def rows (i : Indentation) : Program → List Row
  | done => []
  | line s => [.line s]
  | blank => [.blank]
  | seq first next => first.rows i ++ next.rows i
  | each items body => items.flatMap fun a => (body a).rows i
  | block header close body => Builder.blockRows i header close (body.rows i)
  | declare c => c.rows i

/-- A program none of whose texts has a line break. -/
def FitsLines : Program → Prop
  | done => True
  | line s => IsLine s
  | blank => True
  | seq first next => first.FitsLines ∧ next.FitsLines
  | each items body => ∀ a ∈ items, (body a).FitsLines
  | block header close body => IsLine header ∧ IsLine close ∧ body.FitsLines
  | declare c => c.FitsLines

/-- **Running a program is writing its rows**, by induction on the program: a block runs its body one
unit deeper, and comes back. -/
theorem run_eq_put (p : Program) : ∀ b : Builder, p.run b = b.put (p.rows b.indentation) := by
  induction p with
  | done => exact fun b => b.put_nil.symm
  | line s => exact fun b => b.line_eq_put s
  | blank => exact fun b => b.blank_eq_put
  | seq first next ihfirst ihnext =>
    intro b
    rw [run, ihfirst, ihnext, Builder.indentation_put, ← Builder.put_append, rows]
  | each items body ih =>
    intro b
    refine Builder.each_eq_put (i := b.indentation) (fun b' a hb => ?_) items b rfl
    rw [ih a b', hb]
  | block header close body ih =>
    intro b
    refine b.block_eq_put (fun b' hb => ?_) header close
    rw [ih b', hb]
  | declare c => exact c.write_eq_put

theorem isLine_rows {i : Indentation} {p : Program} (h : p.FitsLines) :
    ∀ r ∈ p.rows i, IsLine r.content := by
  induction p with
  | done => exact fun r hr => absurd hr List.not_mem_nil
  | line s => exact List.forall_mem_singleton.mpr h
  | blank => exact List.forall_mem_singleton.mpr isLine_blank
  | seq first next ihfirst ihnext => exact List.forall_mem_append.mpr ⟨ihfirst h.1, ihnext h.2⟩
  | each items body ih =>
    intro r hr
    obtain ⟨a, ha, hr⟩ := List.mem_flatMap.mp hr
    exact ih a (h a ha) r hr
  | block header close body ih => exact isLine_blockRows h.1 h.2.1 (ih h.2.2)
  | declare c => exact c.isLine_rows h

/-- **Indentation is compositional.**  A program appends the rows that it writes at depth zero, with
as many units in front of each line as the depth says and nothing in front of empty rows, and leaves
the depth as it was.  So a block ends at the depth of its header, with its body one unit deeper in
between.  Where no text has a line break, the rows are the lines of what has been written. -/
theorem run_compositional (p : Program) (i : Indentation) (depth : Nat) (written : List Char) :
    (p.run { indentation := i }).text = ofRows (p.rows i) ∧
    p.run ⟨i, depth, written⟩
      = ⟨i, depth, written ++ ofRows ((p.rows i).map (Row.indented (i.text depth)))⟩ ∧
    i.text depth = (List.replicate depth (i.text 1)).flatten ∧
    (∀ header close, (block header close p).run ⟨i, depth, written⟩
      = ⟨i, depth, written ++ (i.text depth ++ header.toList ++ ['\n']) ++
          (p.run ⟨i, depth + 1, []⟩).text ++ (i.text depth ++ close.toList ++ ['\n'])⟩) ∧
    (p.FitsLines → (p.run { indentation := i }).text.splitOn '\n'
      = (p.rows i).map (·.content.toList) ++ [[]]) := by
  have hstart : (p.run { indentation := i }).text = ofRows (p.rows i) := by
    rw [run_eq_put, Builder.text_put_start]
  refine ⟨hstart, run_eq_put p _, i.text_eq_flatten depth, fun header close => ?_, fun hfits => ?_⟩
  · rw [run, Builder.block, run_eq_put p, run_eq_put p]
    simp [Builder.put, Builder.line, Builder.indent, Builder.dedent]
  · rw [hstart]
    exact splitOn_ofRows (isLine_rows hfits)

/-- A block with items in it, an empty row, and a class with a decorated property. -/
def outline : Program :=
  .block "declare module \x7b" "\x7d" (.seq (.each ["User", "Post"] fun name => .line name)
    (.seq .blank (.declare ⟨"Tag", [], [⟨"id", "number", [⟨"ApiProperty", []⟩]⟩,
      ⟨"label", "string", []⟩]⟩)))

theorem run_compositional_outline : outline.FitsLines ∧
    (outline.run { indentation := .tab }).text.splitOn '\n' =
      ["declare module \x7b", "\tUser", "\tPost", "", "\texport class Tag \x7b",
        "\t\t@ApiProperty()", "\t\tid: number;", "", "\t\tlabel: string;", "\t\x7d",
        "\x7d"].map String.toList ++ [[]] ∧
    (outline.run ⟨.spaces 2, 1, "// models\n".toList⟩).depth = 1 ∧
    (outline.run ⟨.spaces 2, 1, "// models\n".toList⟩).text =
      ("// models\n  declare module \x7b\n    User\n    Post\n\n    export class Tag \x7b\n" ++
        "      @ApiProperty()\n      id: number;\n\n      label: string;\n    \x7d\n" ++
        "  \x7d\n").toList := by
  have hfits : outline.FitsLines := by
    refine ⟨by decide, by decide, fun name hname => ?_, trivial, by decide, by simp, ?_⟩
    · exact (by decide : ∀ name ∈ ["User", "Post"], IsLine name) name hname
    · decide
  obtain ⟨-, -, -, -, hlines⟩ := outline.run_compositional .tab 0 []
  obtain ⟨-, hrun, -⟩ := outline.run_compositional (.spaces 2) 1 "// models\n".toList
  rw [hrun]
  exact ⟨hfits, hlines hfits, rfl, by decide +kernel⟩

end Program

end SchemaClass.Source
