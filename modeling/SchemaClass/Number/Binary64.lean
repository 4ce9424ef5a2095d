/-!
# Binary floating point numbers

A double by its bits, so that equality is decidable and a message about it can be compared.  The
two ways in which a reader gets a double from a decimal numeral are here as well: the nearest
double, and one multiplication or division by a power of ten.
-/

namespace SchemaClass

/-- A double, by its sixty-four bits. -/
structure Binary64 where
  bits : UInt64
  deriving DecidableEq, Repr

namespace Binary64

def ofFloat (x : Float) : Binary64 := ⟨x.toBits⟩

/-- The biased exponent. -/
def biased (x : Binary64) : Nat := (x.bits >>> 52).toNat % 2048

/-- The bit in front of the stored part of a significand: two to the power of 52. -/
def hiddenBit : Nat := 0x10000000000000

/-- The stored part of the significand. -/
def fraction (x : Binary64) : Nat := x.bits.toNat % hiddenBit

def isNegative (x : Binary64) : Bool := x.bits.toNat ≥ 0x8000000000000000

def isNaN (x : Binary64) : Bool := x.biased == 2047 && x.fraction != 0

def isInfinite (x : Binary64) : Bool := x.biased == 2047 && x.fraction == 0

/-- The whole number `m` with `|x| = m * 2 ^ q`. -/
def significand (x : Binary64) : Nat :=
  if x.biased = 0 then x.fraction else x.fraction + hiddenBit

/-- The exponent `q` with `|x| = m * 2 ^ q`. -/
def exponent (x : Binary64) : Int := if x.biased = 0 then -1074 else x.biased - 1075

/-- A power of ten, rounded. -/
def powerOfTen (n : Nat) : Float := Float.ofScientific 1 false n

/-- The double nearest to `digits * 10 ^ scale`.  Scales far outside the range of doubles are
answered without computing the power. -/
def nearest (negative : Bool) (digits : Nat) (scale : Int) : Float :=
  let magnitude : Float :=
    if digits = 0 then 0
    else if scale > 400 then Float.ofScientific 1 false 400
    else if scale + (digits.log2 : Int) < -1100 then 0
    else if scale < 0 then Float.ofScientific digits true scale.natAbs
    else Float.ofScientific digits false scale.natAbs
  if negative then -magnitude else magnitude

/-- `digits * 10 ^ scale` for `digits` of at most 64 bits, where the power is taken in one step, or
in two for the smallest results; `none` if the result is too large. -/
def scaled? (negative : Bool) (digits : Nat) (scale : Int) : Option Float :=
  let start : Float := (UInt64.ofNat digits).toFloat
  let magnitude : Option Float :=
    if digits = 0 then some start
    else if scale > 308 then none
    else if scale ≥ 0 then
      let x := start * powerOfTen scale.natAbs
      if x.isInf then none else some x
    else if scale ≥ -308 then some (start / powerOfTen scale.natAbs)
    else if scale ≥ -616 then some (start / powerOfTen 308 / powerOfTen (scale.natAbs - 308))
    else some 0
  magnitude.map fun x => if negative then -x else x

end Binary64

end SchemaClass
