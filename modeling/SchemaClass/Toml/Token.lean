import SchemaClass.Toml.Value
import SchemaClass.Text.Cursor
/-!
# The tokens of TOML

Blanks, comments, line ends, strings and keys.  A text that breaks a rule is refused as a whole, and
nothing is said about where.

* `length_dropFiller_le`: what stands between the items of a list is passed and nothing is put back;
* `readKey`: a bare key, or a key in quotes.
-/

namespace SchemaClass.Toml

open Text (Cursor Span hexValue?)

/-! ## 1. Blanks and lines -/

/-- Blanks within a line. -/
def isBlank (c : Char) : Bool := c == ' ' || c == '\t'

/-- Characters that are allowed nowhere but as line ends. -/
def isControl (c : Char) : Bool := (c.toNat < 0x20 && c != '\t') || c.toNat == 0x7F

/-- Passes blanks. -/
def skipBlanks (c : Cursor) : Cursor := c.skipWhile isBlank

/-- Moves to a later rest of the same text. -/
def moveTo (c : Cursor) (rest : List Char) : Cursor :=
  ⟨rest, c.read + Text.byteLength (c.rest.take (c.rest.length - rest.length))⟩

/-- The stretch from one cursor to a later one. -/
def stretch (c d : Cursor) : Span := ⟨c.read, d.read - c.read⟩

/-- The rest behind a line end. -/
def dropLineEnd? : List Char → Option (List Char)
  | '\n' :: rest => some rest
  | '\r' :: '\n' :: rest => some rest
  | _ => none

/-- The rest behind a comment, if one starts here. -/
def dropComment : List Char → List Char
  | '#' :: rest => rest.dropWhile (!isControl ·)
  | rest => rest

/-- Passes blanks and a comment up to the next line, or up to the end of the text. -/
def endLine? (c : Cursor) : Option Cursor :=
  let c := skipBlanks c
  let rest := dropComment c.rest
  if rest.isEmpty then some (moveTo c rest) else (dropLineEnd? rest).map (moveTo c)

/-- What follows blanks, line ends and, where they are allowed, comments. -/
def dropFiller (comments : Bool) : List Char → List Char
  | [] => []
  | x :: rest =>
    if isBlank x || x == '\n' then dropFiller comments rest
    else if x == '\r' then
      if rest.head? = some '\n' then dropFiller comments rest.tail else x :: rest
    else if comments && x == '#' then dropFiller comments (rest.dropWhile (!isControl ·))
    else x :: rest
termination_by cs => cs.length
decreasing_by
  all_goals
    have := (List.dropWhile_suffix (l := rest) (!isControl ·)).length_le
    simp
    try omega

/-- Passes what may stand between the items of a list. -/
def skipFiller (c : Cursor) : Cursor := moveTo c (dropFiller true c.rest)

theorem length_dropFiller_le (comments : Bool) (cs : List Char) :
    (dropFiller comments cs).length ≤ cs.length := by
  fun_induction dropFiller comments cs with
  | case1 => simp
  | case2 x rest h ih => simp; omega
  | case3 x rest h hr hn ih => simp at ih ⊢; omega
  | case4 x rest h hr hn => simp
  | case5 x rest h hr hs ih =>
    have := (List.dropWhile_suffix (l := rest) (!isControl ·)).length_le
    simp
    omega
  | case6 x rest h hr hs => simp

/-! ## 2. Escapes -/

/-- The number of hexadecimal digits. -/
def hexNumber? (digits : List Char) : Option Nat :=
  digits.foldlM (fun n c => (hexValue? c).map (n * 16 + ·)) 0

/-- The character with a number of `count` hexadecimal digits, and what follows them. -/
def codePoint? (count : Nat) (cs : List Char) : Option (Char × List Char) := do
  let digits := cs.take count
  if digits.length < count then none
  else
    let n ← hexNumber? digits
    if n.isValidChar then some (Char.ofNat n, cs.drop count) else none

/-- The character of an escape behind its backslash, and what follows it. -/
def escape? : List Char → Option (Char × List Char)
  | 'b' :: rest => some ('\x08', rest)
  | 't' :: rest => some ('\t', rest)
  | 'n' :: rest => some ('\n', rest)
  | 'f' :: rest => some ('\x0c', rest)
  | 'r' :: rest => some ('\r', rest)
  | 'e' :: rest => some ('\x1b', rest)
  | '"' :: rest => some ('"', rest)
  | '\\' :: rest => some ('\\', rest)
  | 'x' :: rest => codePoint? 2 rest
  | 'u' :: rest => codePoint? 4 rest
  | 'U' :: rest => codePoint? 8 rest
  | _ => none

theorem codePoint?_length_le {count : Nat} {cs rest : List Char} {x : Char}
    (h : codePoint? count cs = some (x, rest)) : rest.length ≤ cs.length := by
  unfold codePoint? at h
  dsimp only at h
  split at h
  · cases h
  · cases hn : hexNumber? (cs.take count) with
    | none => simp [hn] at h
    | some n =>
      simp only [hn, Option.bind_eq_bind, Option.bind_some, Option.ite_none_right_eq_some,
        Option.some.injEq, Prod.mk.injEq] at h
      obtain ⟨-, -, rfl⟩ := h
      simp

theorem escape?_length_lt {cs rest : List Char} {x : Char} (h : escape? cs = some (x, rest)) :
    rest.length < cs.length := by
  unfold escape? at h
  split at h
  case h_9 | h_10 | h_11 =>
    have := codePoint?_length_le h
    simp
    omega
  all_goals
    simp only [Option.some.injEq, Prod.mk.injEq, reduceCtorEq] at h
  all_goals
    obtain ⟨-, rfl⟩ := h
    simp

/-! ## 3. Strings -/

/-- The text of a string on one line, and what follows its closing quote. -/
def basicText? (cs : List Char) : Option (List Char × List Char) :=
  match cs with
  | [] => none
  | x :: rest =>
    if x == '"' then some ([], rest)
    else if x == '\\' then
      match h : escape? rest with
      | some (y, after) =>
        have := escape?_length_lt h
        (basicText? after).map fun (text, behind) => (y :: text, behind)
      | none => none
    else if isControl x then none
    else (basicText? rest).map fun (text, behind) => (x :: text, behind)
termination_by cs.length
decreasing_by all_goals simp; try omega

/-- The text of a string without escapes on one line, and what follows its closing quote. -/
def literalText? (cs : List Char) : Option (List Char × List Char) :=
  let text := cs.takeWhile fun x => x != '\'' && !isControl x
  match cs.drop text.length with
  | '\'' :: rest => some (text, rest)
  | _ => none

/-- How many of the next characters are the given quote, up to five. -/
def quotes (quote : Char) (cs : List Char) : Nat := ((cs.take 5).takeWhile (· == quote)).length

/-- The quotes that belong to a text of several lines where it ends, and what follows it: the last
three quotes close it. -/
def closing? (quote : Char) (cs : List Char) : Option (List Char × List Char) :=
  let n := quotes quote cs
  if n < 3 then none else some (List.replicate (n - 3) quote, cs.drop n)

/-- What follows a backslash at the end of a line: the next text on a later line. -/
def dropContinuation? (cs : List Char) : Option (List Char) :=
  (dropLineEnd? (cs.dropWhile isBlank)).map (dropFiller false)

theorem dropLineEnd?_length_lt {cs rest : List Char} (h : dropLineEnd? cs = some rest) :
    rest.length < cs.length := by
  unfold dropLineEnd? at h
  split at h
  · cases h
    simp
  · cases h
    simp only [List.length_cons]
    omega
  · cases h

theorem dropContinuation?_length_lt {cs rest : List Char} (h : dropContinuation? cs = some rest) :
    rest.length < cs.length := by
  obtain ⟨next, hn, rfl⟩ := Option.map_eq_some_iff.1 h
  have h1 := dropLineEnd?_length_lt hn
  have h2 := (List.dropWhile_suffix (l := cs) isBlank).length_le
  have h3 := length_dropFiller_le false next
  omega

/-- The text of a string of several lines, and what follows its closing quotes. -/
def longText? (quote : Char) (cs : List Char) : Option (List Char × List Char) :=
  match cs with
  | [] => none
  | x :: rest =>
    match closing? quote cs with
    | some closed => some closed
    | none =>
      if x == '\\' && quote == '"' then
        match h : escape? rest with
        | some (y, after) =>
          have := escape?_length_lt h
          (longText? quote after).map fun (text, behind) => (y :: text, behind)
        | none =>
          match h : dropContinuation? rest with
          | some after =>
            have := dropContinuation?_length_lt h
            longText? quote after
          | none => none
      else if x == '\n' || !isControl x then
        (longText? quote rest).map fun (text, behind) => (x :: text, behind)
      else if x == '\r' && rest.head? == some '\n' then
        (longText? quote rest).map fun (text, behind) => (x :: text, behind)
      else none
termination_by cs.length
decreasing_by all_goals simp; try omega

/-- A text of several lines without the line end that opens it. -/
def dropOpening (cs : List Char) : List Char := (dropLineEnd? cs).getD cs

/-- The text of any string that starts here. -/
def string? : List Char → Option (List Char × List Char)
  | '"' :: '"' :: '"' :: rest => longText? '"' (dropOpening rest)
  | '\'' :: '\'' :: '\'' :: rest => longText? '\'' (dropOpening rest)
  | '"' :: rest => basicText? rest
  | '\'' :: rest => literalText? rest
  | _ => none

/-! ## 4. Keys -/

/-- Characters of a key without quotes. -/
def isBare (c : Char) : Bool := c.isAlphanum || c == '_' || c == '-'

/-- The name of a key that starts here, and what follows it. -/
def keyText? : List Char → Option (List Char × List Char)
  | '"' :: rest => basicText? rest
  | '\'' :: rest => literalText? rest
  | cs =>
    let name := cs.takeWhile isBare
    if name.isEmpty then none else some (name, cs.drop name.length)

/-- Reads one key. -/
def readKey (c : Cursor) : Option (Key × Cursor) := do
  let (name, rest) ← keyText? c.rest
  let d := moveTo c rest
  return (⟨String.ofList name, stretch c d⟩, d)

/-- How deep values may be nested, and how many keys dots may join. -/
def depthLimit : Nat := 80

/-- Reads keys with dots between them: the keys that lead to a table, and the last one.  Blanks may
stand around the dots and behind the last key. -/
def readKeys (c : Cursor) : Option (List Key × Key × Cursor) := do
  let (key, d) ← readKey (skipBlanks c)
  let behind := skipBlanks d
  if behind.peek? = some '.' then
    if behind.next.left < c.left then
      let (path, last, e) ← readKeys behind.next
      return (key :: path, last, e)
    else none
  else return ([], key, behind)
termination_by c.left

/-- Reads a key with dots, which must not join too many keys. -/
def readPath (c : Cursor) : Option (List Key × Key × Cursor) := do
  let (path, last, d) ← readKeys c
  if path.length < depthLimit then return (path, last, d) else none

end SchemaClass.Toml
