import SchemaClass.Toml.Value
/-!
# Numbers, dates and truth values of TOML

A value that is neither quoted nor bracketed is one run of characters, and its first characters
tell what it is.  Numbers may have underscores between digits, and dates exist in the calendar.

* `scalar?`: the value of a run;
* `isMoment`: the runs that are dates, times or both.
-/

namespace SchemaClass.Toml

/-! ## 1. Numbers -/

/-- The digits of a numeral with underscores between them. -/
def digits? (isDigit : Char → Bool) (cs : List Char) : Option (List Char) :=
  let groups := cs.splitOn '_'
  if groups.all (fun g => !g.isEmpty && g.all isDigit) then some groups.flatten else none

/-- The digits of a decimal numeral without needless zeros in front. -/
def plainDigits? (cs : List Char) : Option (List Char) := do
  let ds ← digits? Char.isDigit cs
  if ds.head? = some '0' && ds.length > 1 then none else some ds

/-- The value of a digit in any base up to sixteen. -/
def digitValue (c : Char) : Nat :=
  if c.isDigit then c.toNat - '0'.toNat
  else if 'a' ≤ c && c ≤ 'f' then c.toNat - 'a'.toNat + 10
  else c.toNat - 'A'.toNat + 10

/-- The number of digits in a base. -/
def numberOf (base : Nat) (ds : List Char) : Nat :=
  ds.foldl (fun n c => n * base + digitValue c) 0

/-- Whether a numeral is negative, and the numeral without its sign. -/
def splitSign : List Char → Bool × List Char
  | '-' :: rest => (true, rest)
  | '+' :: rest => (false, rest)
  | cs => (false, cs)

/-- A whole number, if 64 bits hold it. -/
def bounded (n : Int) : Value :=
  if Int64.minValue.toInt ≤ n && n ≤ Int64.maxValue.toInt then .integer n else .tooLarge

/-- Whole numbers.  Those in other bases have no sign. -/
def integer? : List Char → Option Value
  | '0' :: 'x' :: cs => do
    let isHex (c : Char) : Bool :=
      c.isDigit || ('a' ≤ c && c ≤ 'f') || ('A' ≤ c && c ≤ 'F')
    return bounded (numberOf 16 (← digits? isHex cs))
  | '0' :: 'o' :: cs => do
    return bounded (numberOf 8 (← digits? (fun c => '0' ≤ c && c ≤ '7') cs))
  | '0' :: 'b' :: cs => do
    return bounded (numberOf 2 (← digits? (fun c => c == '0' || c == '1') cs))
  | cs => do
    let (negative, cs) := splitSign cs
    let n := numberOf 10 (← plainDigits? cs)
    return bounded (if negative then -(n : Int) else n)

/-- A finite double, or what is too large for one. -/
def finite (x : Float) : Value := if x.isInf then .tooLarge else .float (.ofFloat x)

/-- The value of an exponent. -/
def exponent? (cs : List Char) : Option Int := do
  let (negative, cs) := splitSign cs
  let n := numberOf 10 (← digits? Char.isDigit cs)
  return if negative then -(n : Int) else n

/-- The digits before and behind a decimal point, and how many are behind it. -/
def mantissa? (cs : List Char) : Option (List Char × Nat) := do
  match cs.splitOn '.' with
  | [whole] => return (← plainDigits? whole, 0)
  | [whole, places] =>
    let places ← digits? Char.isDigit places
    return ((← plainDigits? whole) ++ places, places.length)
  | _ => none

/-- Floating point numbers, which have a point or an exponent. -/
def float? (cs : List Char) : Option Value := do
  let (negative, cs) := splitSign cs
  if cs = ['i', 'n', 'f'] then
    return .float (.ofFloat (if negative then -1.0 / 0.0 else 1.0 / 0.0))
  else if cs = ['n', 'a', 'n'] then return .float (.ofFloat (0.0 / 0.0))
  else
    let significand := cs.takeWhile fun c => c != 'e' && c != 'E'
    let (ds, places) ← mantissa? significand
    let scale ←
      match cs.drop significand.length with
      | [] => if places = 0 then none else pure 0
      | _ :: exponent => exponent? exponent
    return finite (Binary64.nearest negative (numberOf 10 ds) (scale - places))

/-! ## 2. Dates and times -/

/-- A number of exactly `count` digits, and what follows it. -/
def fixed? (count : Nat) (cs : List Char) : Option (Nat × List Char) :=
  let ds := cs.take count
  if ds.length = count && ds.all Char.isDigit then some (numberOf 10 ds, cs.drop count) else none

/-- What follows a character that has to be next. -/
def drop? (c : Char) : List Char → Option (List Char)
  | [] => none
  | x :: rest => if x = c then some rest else none

/-- Years with a 29th of February. -/
def isLeap (year : Nat) : Bool := year % 4 == 0 && (year % 100 != 0 || year % 400 == 0)

/-- The number of days of a month; none if there is no such month. -/
def daysIn (year month : Nat) : Nat :=
  if month = 0 || month > 12 then 0
  else if month = 2 then if isLeap year then 29 else 28
  else if [4, 6, 9, 11].contains month then 30
  else 31

/-- What follows a date. -/
def dropDate? (cs : List Char) : Option (List Char) := do
  let (year, cs) ← fixed? 4 cs
  let (month, cs) ← fixed? 2 (← drop? '-' cs)
  let (day, cs) ← fixed? 2 (← drop? '-' cs)
  if 1 ≤ day && day ≤ daysIn year month then some cs else none

/-- What follows the seconds of a time, if there are any. -/
def dropSeconds? (cs : List Char) : Option (List Char) :=
  match cs with
  | ':' :: rest => do
    let (second, rest) ← fixed? 2 rest
    if second > 60 then none
    else
      match rest with
      | '.' :: fraction =>
        let behind := fraction.dropWhile Char.isDigit
        if behind.length < fraction.length then some behind else none
      | rest => some rest
  | cs => some cs

/-- What follows hours and minutes. -/
def dropClock? (cs : List Char) : Option (List Char) := do
  let (hour, cs) ← fixed? 2 cs
  let (minute, cs) ← fixed? 2 (← drop? ':' cs)
  if hour < 24 && minute < 60 then some cs else none

/-- What follows a time of day. -/
def dropTime? (cs : List Char) : Option (List Char) := do dropSeconds? (← dropClock? cs)

/-- Offsets from universal time; nothing is no offset. -/
def isOffset : List Char → Bool
  | [] => true
  | [c] => c == 'Z' || c == 'z'
  | c :: cs => (c == '+' || c == '-') && dropClock? cs == some []

/-- A date, a time of day, or both with an offset. -/
def isMoment (cs : List Char) : Bool :=
  match dropDate? cs with
  | none => dropTime? cs == some []
  | some [] => true
  | some (c :: cs) => (c == 'T' || c == 't' || c == ' ') && (dropTime? cs).any isOffset

/-! ## 3. Any of them -/

/-- The value of a run of characters. -/
def scalar? (cs : List Char) : Option Value :=
  if cs = ['t', 'r', 'u', 'e'] then some (.boolean true)
  else if cs = ['f', 'a', 'l', 's', 'e'] then some (.boolean false)
  else if isMoment cs then some .moment
  else integer? cs <|> float? cs

/-- Characters of which such runs consist. -/
def isRunning (c : Char) : Bool :=
  c.isAlphanum || c == '_' || c == '-' || c == '+' || c == '.' || c == ':'

/-- The run that starts a text.  A blank between a date and a time belongs to it. -/
def scalarRun (cs : List Char) : List Char :=
  let run := cs.takeWhile isRunning
  if dropDate? run = some [] then
    match cs.drop run.length with
    | ' ' :: rest =>
      let time := rest.takeWhile isRunning
      if time.head?.any Char.isDigit then run ++ ' ' :: time else run
    | _ => run
  else run

end SchemaClass.Toml
