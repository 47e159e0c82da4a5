import SwayControl.Number.Binary64

/-!
Reading numbers from text: an optional sign, digits with an optional point among or around them, and an
optional power of ten after the letter `e`; or a word for infinity or for what is not a number.
-/

namespace SwayControl

def isDigit (c : Char) : Bool := '0' ≤ c && c ≤ '9'

def digitsValue (digits : List Char) : Nat :=
  digits.foldl (fun total c => 10 * total + (c.toNat - '0'.toNat)) 0

/-- A leading sign, where a minus means true, and what follows it. -/
def splitSign : List Char → Bool × List Char
  | '-' :: rest => (true, rest)
  | '+' :: rest => (false, rest)
  | text => (false, text)

/-- The integer that a text of digits with an optional sign stands for. -/
def integer? (text : List Char) : Option Int :=
  let (negative, digits) := splitSign text
  if !digits.isEmpty && digits.all isDigit then
    let magnitude : Int := digitsValue digits
    some (if negative then -magnitude else magnitude)
  else none

/-- Whether every low line of a text stands alone between two other characters. -/
def lowLinesApart (text : List Char) : Bool :=
  text.head? != some '_' && text.getLast? != some '_' && !hasDouble text
where
  /-- Whether two low lines follow each other. -/
  hasDouble : List Char → Bool
    | a :: b :: rest => (a == '_' && b == '_') || hasDouble (b :: rest)
    | _ => false

/-- The most digits that an integer in decimal may be read from. -/
def integerDigitLimit : Nat := 4300

/-- How messages tell that an integer has more digits than it may have. -/
def tooManyDigitsText (count : Nat) : String :=
  "Exceeds the limit (" ++ toString integerDigitLimit ++
    " digits) for integer string conversion: value has " ++ toString count ++
    " digits; use sys.set_int_max_str_digits() to increase the limit"

/-- The power of ten that the end of a number states: none, or the letter `e` and an integer. -/
def statedPower? : List Char → Option Int
  | [] => some 0
  | mark :: power => if mark == 'e' || mark == 'E' then integer? power else none

/-- The digits of a number without their point, and the power of ten of the last of them. -/
def mantissa? (text : List Char) : Option (List Char × Int × List Char) :=
  let whole := text.takeWhile isDigit
  match text.dropWhile isDigit with
  | '.' :: rest =>
    let part := rest.takeWhile isDigit
    if whole.isEmpty && part.isEmpty then none
    else some (whole ++ part, -part.length, rest.dropWhile isDigit)
  | rest => if whole.isEmpty then none else some (whole, 0, rest)

namespace Binary64

/-- The words for numbers that have no digits. -/
def ofWord? (negative : Bool) (word : String) : Option Binary64 :=
  if word == "inf" || word == "infinity" then some (.infinite negative)
  else if word == "nan" then some (.nan 0)
  else none

/-- The number nearest to what a text stands for. -/
def ofText? (text : List Char) : Option Binary64 :=
  let (negative, magnitude) := splitSign text
  match mantissa? magnitude with
  | some (digits, power, rest) => do
    let stated ← statedPower? rest
    return ofDecimal negative (digitsValue digits) (power + stated)
  | none => ofWord? negative (String.ofList (magnitude.map Char.toLower))

end Binary64

end SwayControl
