import SchemaClass.Number.Shortest
/-!
# Floating point numbers in messages

A double is shown by its shortest decimal.  A format says which magnitudes are written with all
their places, while the others are written with one digit before the point and an exponent, and
which of two equally near decimals is taken.
-/

namespace SchemaClass

/-- How doubles are written. -/
structure FloatFormat where
  /-- Which exponents of the leading digit are written positionally. -/
  positional : Int → Bool
  tie : Decimal.Tie

namespace FloatFormat

/-- Every number with all its places. -/
def plain : FloatFormat := ⟨fun _ => true, .up⟩

/-- From five zeros behind the point up to sixteen digits before it. -/
def compact : FloatFormat := ⟨fun e => -5 ≤ e && e ≤ 15, .even⟩

/-- The digits of a whole number. -/
def digitsOf (n : Nat) : List Char := Nat.toDigits 10 n

/-- All places of a decimal, with at least one behind the point. -/
def positionalText (digits : List Char) (exponent : Int) : String :=
  if exponent ≥ 0 then
    String.ofList (digits ++ List.replicate exponent.natAbs '0') ++ ".0"
  else
    let places := exponent.natAbs
    let padded := List.replicate (places + 1 - digits.length) '0' ++ digits
    let whole := padded.take (padded.length - places)
    String.ofList whole ++ "." ++ String.ofList (padded.drop (padded.length - places))

/-- One digit before the point, then the exponent with its sign. -/
def exponentText (digits : List Char) (lead : Int) : String :=
  let mantissa := match digits with
    | [] => "0"
    | [d] => d.toString
    | d :: ds => d.toString ++ "." ++ String.ofList ds
  mantissa ++ "e" ++ (if lead < 0 then "-" else "+") ++ toString lead.natAbs

/-- The text of a double. -/
def text (f : FloatFormat) (x : Binary64) : String :=
  if x.isNaN then "NaN"
  else
    let sign := if x.isNegative then "-" else ""
    if x.isInfinite then sign ++ "inf"
    else
      let d := Decimal.shortest f.tie x
      let digits := digitsOf d.digits
      let lead := d.exponent + (digits.length : Int) - 1
      sign ++ if f.positional lead then positionalText digits d.exponent
        else exponentText digits lead

end FloatFormat

end SchemaClass
