import SchemaClass.Log.Directive
/-!
# Log filters

A filter is a list of directives (`EnvFilter`).  Of those that are about a line, the one that says
most about it decides: the one with the longest target, and of these one that asks for a value.

* `LogFilter.shows`: the lines that are shown;
* `LogFilter.ofText`: the filter of a text.
-/

namespace SchemaClass

/-- Which lines are shown. -/
structure LogFilter where
  directives : List LogFilter.Directive
  deriving DecidableEq, Repr

namespace LogFilter

/-- Whether one value is asked for before another: any before none, then the later in the
alphabet. -/
def isStronger : Option String → Option String → Bool
  | some a, some b => b < a
  | some _, none => true
  | none, _ => false

/-- Whether a directive decides before another on a line that both are about. -/
def Directive.outranks (k d : Directive) : Bool :=
  d.target.length < k.target.length ||
    (k.target.length == d.target.length && isStronger k.value? d.value?)

/-- The directive that decides; of two that say the same of a line, the later. -/
def closer (kept : Option Directive) (d : Directive) : Option Directive :=
  match kept with
  | some k => if k.outranks d then some k else some d
  | none => some d

/-- The directive that decides about a line. -/
def deciding? (f : LogFilter) (l : LogLine) : Option Directive :=
  (f.directives.filter (·.concerns l)).foldl closer none

/-- Whether a line is shown.  A line that no directive is about is not. -/
def shows (f : LogFilter) (l : LogLine) : Bool :=
  (f.deciding? l).any fun d => l.level.rank ≤ d.rank

/-- The name that the names of all sources begin with. -/
def programName : List Char := "kiln".toList

/-- Lines that are worth reading. -/
def standard : LogFilter := ⟨[{ target := programName, rank := LogLevel.info.rank }]⟩

/-- Lines for finding a fault. -/
def verbose : LogFilter := ⟨[{ target := programName, rank := LogLevel.debug.rank }]⟩

/-- The filter of directives with commas between them. -/
def ofText (text : String) : Except Fault LogFilter := do
  let texts := (text.toList.splitOn ',').filter (!·.isEmpty)
  return ⟨← texts.mapM directive⟩

end LogFilter

end SchemaClass
