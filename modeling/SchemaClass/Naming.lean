import SchemaClass.Text.LetterCase
/-!
# Names of classes and files

A model name becomes a class name (`user_profile` to `UserProfile`) and a file name (`UserProfile`
to `user-profile`).  Both start from the pieces between separators; a file name also breaks a piece
where its letter case starts a new word.

* `flatten_humps`: the words of a piece, put together again, are the piece;
* `humps_no_empty`: no word is empty.
-/

namespace SchemaClass.Naming

open Text.LetterCase

/-- The characters that stand between words and belong to none. -/
def isSeparator (c : Char) : Bool := c == '_' || c == '-' || c == ' '

/-- The pieces of a name between its separators; some may be empty. -/
def pieces (s : String) : List (List Char) := s.toList.splitOnP isSeparator

/-! ## 1. Class names -/

/-- The first character in uppercase, the others untouched. -/
def capitalizeChars : List Char → List Char
  | [] => []
  | c :: cs => upper c ++ cs

/-- The first character of a text in uppercase, the others untouched (`capitalize_first`). -/
def capitalize (s : String) : String := String.ofList (capitalizeChars s.toList)

/-- Capitalizes each piece of a name and drops the separators (`to_pascal_case`).  A run that is
already uppercase is kept: `APIKey` stays `APIKey`. -/
def pascal (s : String) : String := String.ofList ((pieces s).flatMap capitalizeChars)

@[simp] theorem capitalizeChars_nil : capitalizeChars [] = [] := rfl

@[simp] theorem capitalizeChars_cons (c : Char) (cs : List Char) :
    capitalizeChars (c :: cs) = upper c ++ cs := rfl

/-! ## 2. File names -/

/-- Where case alone starts a word: `userId` breaks before `I`, `APIKey` only before `K`. -/
def startsWord (before c : Char) (after : Option Char) : Bool :=
  isUpper c && (isLower before || before.isDigit || (isUpper before && after.any isLower))

/-- Puts a character in front of the first word. -/
def extendFirst (c : Char) : List (List Char) → List (List Char)
  | [] => [[c]]
  | w :: ws => (c :: w) :: ws

/-- The words of a piece, in the case they were written in. -/
def humps : List Char → List (List Char)
  | [] => []
  | [c] => [[c]]
  | c :: d :: cs =>
    if startsWord c d cs.head? then [c] :: humps (d :: cs) else extendFirst c (humps (d :: cs))

/-- The words of a name in lowercase (`split_words`). -/
def words (s : String) : List (List Char) :=
  ((pieces s).flatMap humps).map (·.flatMap lower)

/-- The words of a name in lowercase, with a hyphen between neighbours (`to_kebab_case`). -/
def kebab (s : String) : String := String.ofList (['-'].intercalate (words s))

theorem flatten_extendFirst (c : Char) (ws : List (List Char)) :
    (extendFirst c ws).flatten = c :: ws.flatten := by
  cases ws <;> simp [extendFirst]

theorem flatten_humps (cs : List Char) : (humps cs).flatten = cs := by
  fun_induction humps cs with
  | case1 => rfl
  | case2 => rfl
  | case3 c d cs h ih => simp [ih]
  | case4 c d cs h ih => rw [flatten_extendFirst, ih]

theorem extendFirst_no_empty {c : Char} {ws : List (List Char)} (h : [] ∉ ws) :
    [] ∉ extendFirst c ws := by
  cases ws <;> simp_all [extendFirst]

theorem humps_no_empty (cs : List Char) : [] ∉ humps cs := by
  fun_induction humps cs with
  | case1 => simp
  | case2 => simp
  | case3 c d cs h ih => simpa using ih
  | case4 c d cs h ih => exact extendFirst_no_empty ih

end SchemaClass.Naming
