import SwayControl.Number.Binary64

/-!
Shortest decimals. Among the decimals that round back to a number, the fewest digits are taken, and of
those the nearest; `DecimalStyle` says how such digits are laid out with a point or an exponent.
-/

namespace SwayControl

/-- Decimal digits and the power of ten of the first of them: `⟨314, 0⟩` is 3.14. -/
structure ScientificDecimal where
  digits : Nat
  power : Int
deriving DecidableEq, Repr

namespace ScientificDecimal

/-- The power of ten of the first digit of a positive ratio. -/
def leadingPower (numerator denominator : Nat) : Int :=
  if numerator ≥ denominator then Binary64.decimalLength (numerator / denominator) - 1
  else
    let steps := Binary64.decimalLength (denominator / numerator) - 1
    if numerator * Nat.pow 10 steps == denominator then -steps else -steps - 1

/-- The decimals that round to a number, as a closed or open interval of ratios around it. -/
structure Neighbourhood where
  low : Nat
  value : Nat
  high : Nat
  denominator : Nat
  closed : Bool

/-- The interval of a finite number, reaching half-way to its neighbours on both sides. The ends belong
to it when the mantissa is even, because ties are rounded to the even mantissa. -/
def Neighbourhood.around (mantissa : Nat) (exponent : Int) : Neighbourhood :=
  let quarter := exponent - 2
  let scale := if quarter < 0 then 1 else Nat.pow 2 quarter.natAbs
  let denominator := if quarter < 0 then Nat.pow 2 quarter.natAbs else 1
  -- Below a power of two the next number is only half as far away.
  let below := if mantissa == Nat.pow 2 52 && exponent > -1074 then 1 else 2
  ⟨(4 * mantissa - below) * scale, 4 * mantissa * scale, (4 * mantissa + 2) * scale, denominator,
    mantissa % 2 == 0⟩

/-- Whether `digits * 10 ^ power` lies in the interval. -/
def Neighbourhood.contains (n : Neighbourhood) (digits : Nat) (power : Int) : Bool :=
  let tens := Nat.pow 10 power.natAbs
  let (point, factor) :=
    if power < 0 then (digits * n.denominator, tens) else (digits * tens * n.denominator, 1)
  let low := n.low * factor
  let high := n.high * factor
  if n.closed then low ≤ point && point ≤ high else low < point && point < high

/-- The two neighbours of the value on the grid of multiples of `10 ^ power`, and whether the upper one
is the nearer; a tie goes to the even one. -/
def Neighbourhood.gridPoints (n : Neighbourhood) (power : Int) : Nat × Nat × Bool :=
  let tens := Nat.pow 10 power.natAbs
  let (numerator, denominator) :=
    if power < 0 then (n.value * tens, n.denominator) else (n.value, n.denominator * tens)
  let lower := numerator / denominator
  let twice := 2 * (numerator % denominator)
  (lower, lower + 1, twice > denominator || (twice == denominator && lower % 2 == 1))

/-- The best decimal with the given count of digits, if one of the two grid points lies inside. -/
def Neighbourhood.withDigits? (n : Neighbourhood) (leading : Int) (count : Nat) :
    Option (Nat × Int) :=
  let power := leading + 1 - count
  let (lower, upper, upperNearer) := n.gridPoints power
  let lowerFits := lower > 0 && n.contains lower power
  let upperFits := n.contains upper power
  if lowerFits && upperFits then some (if upperNearer then upper else lower, power)
  else if lowerFits then some (lower, power)
  else if upperFits then some (upper, power)
  else none

/-- The first count of digits, from the given one on, that has a decimal inside; at most `fuel` counts
are tried. -/
def Neighbourhood.shortest (n : Neighbourhood) (leading : Int) : Nat → Nat → Nat × Int
  | 0, count => ((n.gridPoints (leading + 1 - count)).1, leading + 1 - count)
  | fuel + 1, count =>
    match n.withDigits? leading count with
    | some found => found
    | none => n.shortest leading fuel (count + 1)

def stripZeros : Nat → Nat → Nat
  | 0, n => n
  | fuel + 1, n => if n != 0 && n % 10 == 0 then stripZeros fuel (n / 10) else n

/-- The shortest decimal that rounds back to a finite number other than zero. Seventeen digits always
suffice. -/
def ofFinite (mantissa : Nat) (exponent : Int) : ScientificDecimal :=
  let n := Neighbourhood.around mantissa exponent
  let (digits, power) := n.shortest (leadingPower n.value n.denominator) 17 1
  let stripped := stripZeros 20 digits
  ⟨stripped, power + Binary64.decimalLength digits - 1⟩

end ScientificDecimal

/-- How the digits of a number are laid out: the powers of ten written without an exponent, and the
form of the exponent otherwise. -/
structure DecimalStyle where
  lowestPositional : Int
  highestPositional : Int
  plusSign : Bool
  exponentWidth : Nat

namespace DecimalStyle

/-- Zeros in front of a text up to a width. -/
def padded (width : Nat) (text : String) : String :=
  String.ofList (List.replicate (width - text.length) '0') ++ text

/-- Digits with a point after the digit of power zero, and at least one digit on either side. -/
def positional (digits : String) (power : Int) : String :=
  if power < 0 then "0." ++ String.ofList (List.replicate (power.natAbs - 1) '0') ++ digits
  else
    let whole := power.natAbs + 1
    let cs := digits.toList
    let fraction := cs.drop whole
    String.ofList (cs.take whole ++ List.replicate (whole - cs.length) '0') ++ "." ++
      (if fraction.isEmpty then "0" else String.ofList fraction)

/-- Digits with a point after the first one and an exponent. -/
def scientific (style : DecimalStyle) (digits : String) (power : Int) : String :=
  let sign := if power < 0 then "-" else if style.plusSign then "+" else ""
  let cs := digits.toList
  let mantissa :=
    String.ofList (cs.take 1) ++ (if cs.length > 1 then "." ++ String.ofList (cs.drop 1) else "")
  mantissa ++ "e" ++ sign ++ padded style.exponentWidth (toString power.natAbs)

def write (style : DecimalStyle) (d : ScientificDecimal) : String :=
  let digits := toString d.digits
  if style.lowestPositional ≤ d.power && d.power ≤ style.highestPositional then
    positional digits d.power
  else style.scientific digits d.power

/-- A floating-point number in this style, infinities and what is not a number by their short names. -/
def writeBinary (style : DecimalStyle) : Binary64 → String
  | .nan _ => "nan"
  | .infinite negative => if negative then "-inf" else "inf"
  | .finite negative mantissa exponent _ =>
    (if negative then "-" else "") ++
      (if mantissa == 0 then "0.0" else style.write (ScientificDecimal.ofFinite mantissa exponent))

end DecimalStyle

namespace Binary64

/-- Numbers in messages and commands: positional from 0.0001 below 1e+16, and exponents of at least two
digits with their sign. -/
def messageStyle : DecimalStyle := ⟨-4, 15, true, 2⟩

/-- The text of a number in messages and commands. -/
def shown (x : Binary64) : String := messageStyle.writeBinary x

end Binary64

end SwayControl
