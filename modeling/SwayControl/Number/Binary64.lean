/-!
Binary floating-point numbers of 64 bits, held as exact mantissa and exponent. Reading a ratio or a
decimal rounds to the nearest such number, a tie to the even mantissa; comparing a number with an
integer is exact.
-/

namespace SwayControl

/-- The pairs of mantissa and exponent that name a finite number, each number by one pair: 53 bits,
the top one set unless the exponent is the least. -/
def Binary64.Canonical (mantissa : Nat) (exponent : Int) : Prop :=
  mantissa < Nat.pow 2 53 ∧ -1074 ≤ exponent ∧ exponent ≤ 971 ∧
    (Nat.pow 2 52 ≤ mantissa ∨ exponent = -1074)

instance (mantissa : Nat) (exponent : Int) : Decidable (Binary64.Canonical mantissa exponent) := by
  unfold Binary64.Canonical; infer_instance

/-- A number of 64 bits: not a number, an infinity, or `mantissa * 2 ^ exponent` with a sign. What is
not a number says which one of them it is, as none equals another and yet each is found again. -/
inductive Binary64 where
  | nan (which : Nat)
  | infinite (negative : Bool)
  | finite (negative : Bool) (mantissa : Nat) (exponent : Int)
      (canonical : Binary64.Canonical mantissa exponent)
deriving DecidableEq, Repr

namespace Binary64

/-- Zero with a sign. -/
def zero (negative : Bool) : Binary64 := .finite negative 0 (-1074) (by decide)

instance : Inhabited Binary64 := ⟨zero false⟩

/-- The quotient rounded to the nearest natural number, a tie to the even one. -/
def roundedQuotient (numerator denominator : Nat) : Nat :=
  let quotient := numerator / denominator
  let twice := 2 * (numerator % denominator)
  if twice > denominator || (twice == denominator && quotient % 2 == 1) then quotient + 1 else quotient

/-- The ratio divided by two to the given power and rounded to a natural number. -/
def scaledQuotient (numerator denominator : Nat) (exponent : Int) : Nat :=
  if exponent < 0 then roundedQuotient (numerator * Nat.pow 2 exponent.natAbs) denominator
  else roundedQuotient numerator (denominator * Nat.pow 2 exponent.natAbs)

/-- The number with this mantissa and exponent, or an infinity where there is none. -/
def assemble (negative : Bool) (mantissa : Nat) (exponent : Int) : Binary64 :=
  if h : Canonical mantissa exponent then .finite negative mantissa exponent h else .infinite negative

/-- The number nearest to a ratio. The first exponent leaves 53 or 54 bits before the point; a
quotient that needs 54 is taken again with the next exponent. -/
def ofRatio (negative : Bool) (numerator denominator : Nat) : Binary64 :=
  if numerator == 0 then zero negative
  else
    let length : Int := numerator.log2 - denominator.log2
    let first := max (-1074) (length - 53)
    let exponent :=
      if scaledQuotient numerator denominator first < Nat.pow 2 53 then first else first + 1
    let mantissa := scaledQuotient numerator denominator exponent
    -- Rounding up may carry into one bit more.
    if mantissa == Nat.pow 2 53 then assemble negative (Nat.pow 2 52) (exponent + 1)
    else assemble negative mantissa exponent

/-- The number of decimal digits of a natural number, one for zero. -/
def decimalLength (n : Nat) : Nat := (Nat.toDigits 10 n).length

/-- The number nearest to `digits * 10 ^ power`. Powers far outside the range are settled first, so
the work is bounded by the length of the digits. -/
def ofDecimal (negative : Bool) (digits : Nat) (power : Int) : Binary64 :=
  if digits == 0 then zero negative
  else
    let magnitude := power + decimalLength digits
    if magnitude > 310 then .infinite negative
    else if magnitude < -330 then zero negative
    else if power < 0 then ofRatio negative digits (Nat.pow 10 power.natAbs)
    else ofRatio negative (digits * Nat.pow 10 power.natAbs) 1

/-- The integer that a number equals, if it has no fractional part. -/
def toInt? : Binary64 → Option Int
  | .nan _ | .infinite _ => none
  | .finite negative mantissa exponent _ =>
    let power := Nat.pow 2 exponent.natAbs
    let magnitude? :=
      if exponent < 0 then if mantissa % power == 0 then some (mantissa / power) else none
      else some (mantissa * power)
    magnitude?.map fun (magnitude : Nat) => if negative then -(magnitude : Int) else magnitude

/-- Equality of the numbers meant: zeros of both signs are equal, and nothing equals what is not a
number. -/
def same (a b : Binary64) : Bool :=
  match a, b with
  | .nan _, _ | _, .nan _ => false
  | .finite _ 0 _ _, .finite _ 0 _ _ => true
  | a, b => a == b

end Binary64

end SwayControl
