import SchemaClass.Log.Line
import SchemaClass.Log.Pattern
import SchemaClass.Text.Alphanumeric
import SchemaClass.Text.Blank
import SchemaClass.Text.Position
/-!
# Directives of a log filter

One wish of a filter: up to which level lines are shown, if they come from a source, and if they
have a value.  A directive is written as a level, as a source, or as both with an equals sign
between them; behind the source, brackets hold the name of a scope and, in braces, that of a value.

* `rankOf?`: the level of a word, as a name or a digit;
* `directive`: the directive of a text;
* `Directive.concerns`: the lines that a directive is about.
-/

namespace SchemaClass.LogFilter

open Text (byteLength sliceBytes?)

/-- A wish about lines. -/
structure Directive where
  /-- What the name of the source begins with. -/
  target : List Char := []
  /-- Whether only lines inside a scope are meant.  No line of this program is inside one. -/
  isScoped : Bool := false
  /-- A value that the line has. -/
  value? : Option String := none
  /-- Up to which rank lines are shown. -/
  rank : Nat
  deriving DecidableEq, Repr

namespace Directive

/-- Whether a directive is about a line. -/
def concerns (d : Directive) (l : LogLine) : Bool :=
  !d.isScoped && d.target.isPrefixOf l.source.name.toList && d.value?.all l.hasValue

end Directive

/-! ## 1. Levels -/

/-- The names of ranks, from zero on. -/
def rankNames : List (List Char) :=
  ["off", "error", "warn", "info", "debug", "trace"].map String.toList

/-- The rank of a number. -/
def rankOfDigits? (digits : List Char) : Option Nat :=
  if digits.isEmpty || !digits.all Char.isDigit then none
  else
    match digits.dropWhile (· == '0') with
    | [] => some 0
    | [d] => if d ≤ '5' then some (d.toNat - '0'.toNat) else none
    | _ => none

/-- The rank of a word: a name in any letter case, or a number that may have a plus sign. -/
def rankOf? (word : List Char) : Option Nat :=
  let digits := match word with
    | '+' :: digits => digits
    | digits => digits
  rankOfDigits? digits <|> rankNames.idxOf? (word.map Char.toLower)

/-! ## 2. The parts of a directive

A directive is divided without the blanks around it, but its parts are cut by bytes from the text
as it was given. -/

/-- Why a text is no filter. -/
inductive Fault where
  | malformed
  /-- A part would begin or end inside a character. -/
  | cut
  deriving DecidableEq, Repr

/-- The bytes of a text from one offset to another. -/
def slice (start stop : Nat) (text : List Char) : Except Fault (List Char) :=
  match sliceBytes? start stop text with
  | some part => .ok part
  | none => .error .cut

/-- Characters that a directive can begin with, besides a bracket. -/
def isStart (c : Char) : Bool :=
  c == '-' || c == ':' || c == '_' || Text.Alphanumeric.isAlphanumeric c

/-- The rank behind a source or brackets, where `rest` begins at an offset.  Without a level all
lines are meant. -/
def rankBehind (text : List Char) (offset : Nat) (rest : List Char) : Except Fault Nat :=
  match rest with
  | [] => .ok LogLevel.trace.rank
  | '=' :: _ => do
    let word ← slice (offset + 1) (byteLength text) text
    if word.isEmpty then .ok LogLevel.trace.rank
    else
      match rankOf? word with
      | some rank => .ok rank
      | none => .error .malformed
  | _ => .error .malformed

/-- The name of a value and whether it is compared with a pattern. -/
def valueTest (test : List Char) : Except Fault (String × Bool) :=
  let name := test.takeWhile (· != '=')
  match test.drop name.length with
  | [] => if test.isEmpty then .error .malformed else .ok (String.ofList name, false)
  | _ :: behind =>
    if isPattern (behind.takeWhile (· != '=')) then .ok (String.ofList name, true)
    else .error .malformed

/-- The directive with a target whose brackets have been opened before `rest`, which begins at an
offset. -/
def bracketed (text target : List Char) (offset : Nat) (rest : List Char) :
    Except Fault Directive := do
  let scope := rest.takeWhile fun c => c != ']' && c != '\x7b'
  let stop := offset + byteLength scope
  match rest.drop scope.length with
  | [] => .error .malformed
  | bracket :: inner =>
    let _ ← slice offset stop text
    if bracket = ']' then
      return { target, isScoped := true, rank := ← rankBehind text (stop + 1) inner }
    else
      let test := inner.takeWhile (· != '\x7d')
      let close := stop + 1 + byteLength test
      match inner.drop test.length with
      | [] => .error .malformed
      | _ :: behind =>
        let (name, isCompared) ← valueTest (← slice (stop + 1) close text)
        match behind with
        | ']' :: behind =>
          let rank ← rankBehind text (close + 2) behind
          return { target, isScoped := !scope.isEmpty || isCompared, value? := some name, rank }
        | _ => .error .malformed

/-- The directive of a text without commas. -/
def directive (text : List Char) : Except Fault Directive :=
  match Text.trimEnd (Text.trimStart text) with
  | [] => .error .malformed
  | '[' :: rest => bracketed text [] 1 rest
  | c :: cs =>
    if !isStart c then .error .malformed
    else
      let word := (c :: cs).takeWhile fun c => c != '=' && c != '['
      let stop := byteLength word
      match (c :: cs).drop word.length with
      | [] =>
        match rankOf? text with
        | some rank => .ok { rank }
        | none => .ok { target := text, rank := LogLevel.trace.rank }
      | '[' :: rest => do bracketed text (← slice 0 stop text) (stop + 1) rest
      | rest => do
        let target ← slice 0 stop text
        return { target, rank := ← rankBehind text stop rest }

end SchemaClass.LogFilter
