import SwayControl.Number.Decimal

/-!
Numbers of commands: integers of any size and floating-point numbers. A floating-point number without a
fractional part is written as the integer it equals.
-/

namespace SwayControl

/-- An integer or a floating-point number. -/
inductive Number where
  | int (n : Int)
  | real (x : Binary64)
deriving DecidableEq, Repr

namespace Number

/-- The number in decimal, without a point where it has no fractional part. -/
def render : Number → String
  | .int n => toString n
  | .real x =>
    match x.toInt? with
    | some n => toString n
    | none => x.shown

/-- Equality of the numbers meant, whichever way each is held. -/
def same : Number → Number → Bool
  | .int a, .int b => a == b
  | .int a, .real x | .real x, .int a => x.toInt? == some a
  | .real x, .real y => x.same y

end Number

end SwayControl
