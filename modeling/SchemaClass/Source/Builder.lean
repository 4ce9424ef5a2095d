/-!
# Building source text

A builder collects lines, each behind the indentation of the current depth.  Empty lines are never
indented.

* `block`: a header, a body one level deeper, and a closing line;
* `depth_line`, `depth_blank`: only `indent` and `dedent` change the depth;
* `text_line`, `text_blank`: what has been written stays.
-/

namespace SchemaClass.Source

/-- The unit of indentation (`Indent`). -/
inductive Indentation where
  | spaces (width : Nat)
  | tab
  deriving DecidableEq, Repr

/-- The indentation of a depth. -/
def Indentation.text (i : Indentation) (depth : Nat) : List Char :=
  match i with
  | spaces width => List.replicate (width * depth) ' '
  | tab => List.replicate depth '\t'

/-- Two spaces. -/
def Indentation.standard : Indentation := .spaces 2

/-- The text written so far and the depth of the next line (`CodeBuilder`). -/
structure Builder where
  indentation : Indentation := .standard
  depth : Nat := 0
  text : List Char := []
  deriving DecidableEq, Repr

namespace Builder

/-- Writes a line. -/
def line (b : Builder) (s : String) : Builder :=
  { b with text := b.text ++ b.indentation.text b.depth ++ s.toList ++ ['\n'] }

/-- Writes an empty line. -/
def blank (b : Builder) : Builder := { b with text := b.text ++ ['\n'] }

/-- Goes one level deeper. -/
def indent (b : Builder) : Builder := { b with depth := b.depth + 1 }

/-- Goes one level back, if there is one. -/
def dedent (b : Builder) : Builder := { b with depth := b.depth - 1 }

/-- Writes something for each item. -/
def each {α : Type} (b : Builder) (items : List α) (write : Builder → α → Builder) : Builder :=
  items.foldl write b

/-- Writes a header, a body one level deeper, and a closing line. -/
def block (b : Builder) (header close : String) (body : Builder → Builder) : Builder :=
  (body (b.line header).indent).dedent.line close

/-- The text that has been written. -/
def build (b : Builder) : String := String.ofList b.text

@[simp] theorem depth_line (b : Builder) (s : String) : (b.line s).depth = b.depth := rfl

@[simp] theorem depth_blank (b : Builder) : b.blank.depth = b.depth := rfl

@[simp] theorem depth_indent (b : Builder) : b.indent.depth = b.depth + 1 := rfl

@[simp] theorem depth_dedent (b : Builder) : b.dedent.depth = b.depth - 1 := rfl

@[simp] theorem text_line (b : Builder) (s : String) :
    (b.line s).text = b.text ++ b.indentation.text b.depth ++ s.toList ++ ['\n'] := rfl

@[simp] theorem text_blank (b : Builder) : b.blank.text = b.text ++ ['\n'] := rfl

@[simp] theorem text_indent (b : Builder) : b.indent.text = b.text := rfl

@[simp] theorem text_dedent (b : Builder) : b.dedent.text = b.text := rfl

end Builder

end SchemaClass.Source
