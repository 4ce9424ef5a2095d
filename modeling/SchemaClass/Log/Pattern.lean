import SchemaClass.Log.Pattern.Expression
/-!
# Comparing values

A filter may compare a value with a number or a pattern.  No line of this program is ever compared,
so only the form matters here.

* `isPattern`: whether a text can be compared with values.
-/

namespace SchemaClass.LogFilter

/-- What may follow the digits of a number. -/
def isExponent : List Char → Bool
  | [] => true
  | c :: cs =>
    let digits := match cs with
      | '+' :: digits | '-' :: digits => digits
      | digits => digits
    (c == 'e' || c == 'E') && !digits.isEmpty && digits.all Char.isDigit

/-- A decimal number without a sign. -/
def isDecimal (cs : List Char) : Bool :=
  let whole := cs.takeWhile Char.isDigit
  match cs.drop whole.length with
  | '.' :: rest =>
    let places := rest.takeWhile Char.isDigit
    !(whole ++ places).isEmpty && isExponent (rest.drop places.length)
  | rest => !whole.isEmpty && isExponent rest

/-- Words that are numbers. -/
def numberWords : List (List Char) := ["inf", "infinity", "nan"].map String.toList

/-- A number with a plus sign, which is a value though it is no pattern. -/
def isSignedNumber : List Char → Bool
  | '+' :: cs => isDecimal cs || numberWords.contains (cs.map Char.toLower)
  | _ => false

/-- Whether a text can be compared with values. -/
def isPattern (text : List Char) : Bool :=
  isSignedNumber text || (Pattern.depth? text).any (· ≤ Pattern.depthLimit)

end SchemaClass.LogFilter
