import SwayControl.Number.Reading
import SwayControl.Text.Blank
import SwayControl.Text.DecimalDigit

/-!
Integers as people type them: white space around, a sign in front, digits of any script, and low lines
between digits.
-/

namespace SwayControl

/-- The integer that someone typed. -/
def typedInteger? (text : List Char) : Option Int := do
  let (negative, written) := splitSign (Text.trimmed text)
  guard (lowLinesApart written)
  let digits ← (written.filter (· != '_')).mapM Text.decimalDigit?
  guard (0 < digits.length && digits.length ≤ integerDigitLimit)
  let magnitude : Nat := digits.foldl (fun total digit => 10 * total + digit) 0
  return if negative then -(magnitude : Int) else magnitude

end SwayControl
