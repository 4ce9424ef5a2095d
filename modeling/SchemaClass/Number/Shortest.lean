import SchemaClass.Number.Binary64
/-!
# The shortest decimal of a double

The fewest digits whose decimal rounds back to a given double, and of those digits the nearest.
All arithmetic is exact, on whole numbers.  A double stands for every real between the midpoints to
its neighbours; of the decimals with a given number of digits, only the two around the double
itself can lie in that interval if any does.
-/

namespace SchemaClass

/-- The number `digits * 10 ^ exponent`. -/
structure Decimal where
  digits : Nat
  exponent : Int
  deriving DecidableEq, Repr

namespace Decimal

/-- A ratio of whole numbers. -/
structure Ratio where
  num : Nat
  den : Nat

/-- `m * 2 ^ q` as a ratio. -/
def Ratio.binary (m : Nat) (q : Int) : Ratio :=
  if q ≥ 0 then ⟨m * Nat.pow 2 q.natAbs, 1⟩ else ⟨m, Nat.pow 2 q.natAbs⟩

/-- `m * 10 ^ q` as a ratio. -/
def Ratio.decimal (m : Nat) (q : Int) : Ratio :=
  if q ≥ 0 then ⟨m * Nat.pow 10 q.natAbs, 1⟩ else ⟨m, Nat.pow 10 q.natAbs⟩

def Ratio.lt (a b : Ratio) : Bool := a.num * b.den < b.num * a.den

def Ratio.le (a b : Ratio) : Bool := a.num * b.den ≤ b.num * a.den

/-- The reals that round to a positive double: its midpoints to the neighbours, which belong to it
if its significand is even. -/
structure Cell where
  value : Ratio
  lower : Ratio
  upper : Ratio
  closed : Bool

/-- The cell of a finite positive double.  Below a power of two the neighbours are twice as
close. -/
def Cell.of (x : Binary64) : Cell :=
  let m := x.significand
  let q := x.exponent
  let below := if x.fraction = 0 && x.biased > 1 then 4 * m - 1 else 4 * m - 2
  { value := .binary m q
    lower := .binary below (q - 2)
    upper := .binary (4 * m + 2) (q - 2)
    closed := m % 2 == 0 }

def Cell.contains (c : Cell) (r : Ratio) : Bool :=
  if c.closed then c.lower.le r && r.le c.upper else c.lower.lt r && r.lt c.upper

/-- The exponent of the leading decimal digit, searched downwards from `top`. -/
def leadingExponent (value : Ratio) : (fuel : Nat) → (top : Int) → Int
  | 0, top => top
  | fuel + 1, top =>
    if (Ratio.decimal 1 top).le value then top else leadingExponent value fuel (top - 1)

/-- The two decimals with digits down to `10 ^ unit` around a ratio: the lower one in units. -/
def floorIn (value : Ratio) (unit : Int) : Nat :=
  if unit ≥ 0 then value.num / (value.den * Nat.pow 10 unit.natAbs)
  else value.num * Nat.pow 10 unit.natAbs / value.den

/-- Which of two neighbours is taken if both are equally near. -/
inductive Tie where
  | even
  | up
  deriving DecidableEq, Repr

/-- Whether the neighbour above `lower` is taken in a tie. -/
def Tie.takesUpper (tie : Tie) (lower : Nat) : Bool :=
  match tie with
  | even => lower % 2 == 1
  | up => true

/-- Whether `lower + 1` is to be taken before `lower`, both in units of `10 ^ unit`. -/
def upperIsNearer (tie : Tie) (value : Ratio) (lower : Nat) (unit : Int) : Bool :=
  let middle := Ratio.decimal (2 * lower + 1) unit
  let twice : Ratio := ⟨2 * value.num, value.den⟩
  middle.lt twice || (middle.le twice && tie.takesUpper lower)

/-- The decimal with the digits down to `10 ^ unit` that lies in the cell, if there is one. -/
def candidate? (tie : Tie) (c : Cell) (unit : Int) : Option Decimal :=
  let lower := floorIn c.value unit
  let lowIn := c.contains (.decimal lower unit)
  let highIn := c.contains (.decimal (lower + 1) unit)
  if lowIn && (!highIn || !upperIsNearer tie c.value lower unit) then some ⟨lower, unit⟩
  else if highIn then some ⟨lower + 1, unit⟩
  else none

/-- The first candidate when digits are added one by one. -/
def firstCandidate (tie : Tie) (c : Cell) : (more : Nat) → (unit : Int) → Decimal
  | 0, unit => ⟨floorIn c.value unit, unit⟩
  | more + 1, unit => (candidate? tie c unit).getD (firstCandidate tie c more (unit - 1))

/-- Drops the zeros at the end of the digits. -/
def strip : (fuel : Nat) → Decimal → Decimal
  | 0, d => d
  | fuel + 1, d =>
    if d.digits % 10 = 0 && d.digits != 0 then strip fuel ⟨d.digits / 10, d.exponent + 1⟩ else d

/-- The shortest decimal that rounds to the magnitude of a finite double, and of those the
nearest. -/
def shortest (tie : Tie) (x : Binary64) : Decimal :=
  if x.significand = 0 then ⟨0, 0⟩
  else
    let cell := Cell.of x
    strip 17 (firstCandidate tie cell 17 (leadingExponent cell.value 640 309))

end Decimal

end SchemaClass
