import SwayControl.Number.Reading
import SwayControl.Toml.Place

/-!
Numbers and moments of a configuration text. Low lines may stand between the digits of a number. A
moment is a date, a time of day, or both, the latter with the distance from universal time if it is
known.
-/

namespace SwayControl.Toml

/-- The length of the digits in front, where a low line may stand between two of them. -/
def groupedLength (digit : Char → Bool) : List Char → Nat
  | [] => 0
  | c :: rest =>
    if digit c then
      match rest with
      | '_' :: d :: others => if digit d then groupedLength digit (d :: others) + 2 else 1
      | rest => groupedLength digit rest + 1
    else 0

def ungrouped (text : List Char) : List Char := text.filter (· != '_')

/-- The digits of a base that a letter after a zero names. -/
def baseOf? : Char → Option (Nat × (Char → Bool))
  | 'x' => some (16, fun c => (Text.hexValue? c).isSome)
  | 'b' => some (2, fun c => c == '0' || c == '1')
  | 'o' => some (8, fun c => '0' ≤ c && c ≤ '7')
  | _ => none

/-- A number in a base that its second character names, and its length. -/
def basedNumber? : List Char → Option (Datum × Nat)
  | '0' :: letter :: rest => do
    let (base, digit) ← baseOf? letter
    let length := groupedLength digit rest
    if length == 0 then none
    else
      let digits := ungrouped (rest.take length)
      let value := digits.foldl (fun total c => total * base + (Text.hexValue? c).getD 0) 0
      some (.int value, length + 2)
  | _ => none

/-- The length of a sign in front. -/
def signLength (text : List Char) : Nat :=
  match text with
  | '+' :: _ | '-' :: _ => 1
  | _ => 0

/-- The length of the digits of a whole part: one zero, or digits that begin with none. -/
def wholeLength (text : List Char) : Nat :=
  if text.head? == some '0' then 1 else groupedLength isDigit text

/-- The length of the fraction in front, or nothing. -/
def fractionLength : List Char → Nat
  | '.' :: rest => if groupedLength isDigit rest == 0 then 0 else groupedLength isDigit rest + 1
  | _ => 0

/-- The length of the exponent in front, or nothing. -/
def exponentLength : List Char → Nat
  | mark :: rest =>
    if mark == 'e' || mark == 'E' then
      let sign := signLength rest
      let digits := groupedLength isDigit (rest.drop sign)
      if digits == 0 then 0 else digits + sign + 1
    else 0
  | [] => 0

/-- A decimal number, and its length. -/
def decimalNumber? (text : List Char) : Option (Datum × Nat) :=
  let sign := signLength text
  let whole := wholeLength (text.drop sign)
  if whole == 0 then none
  else
    let fraction := fractionLength (text.drop (sign + whole))
    let exponent := exponentLength (text.drop (sign + whole + fraction))
    let length := sign + whole + fraction + exponent
    let digits := ungrouped (text.take length)
    -- A whole part alone is an integer.
    if fraction + exponent == 0 then some (.int ((integer? digits).getD 0), length)
    else some (.real ((Binary64.ofText? digits).getD (.nan 0)), length)

/-- The words for numbers that have no digits, with a sign or without. -/
def numberWords : List (String × Binary64) :=
  [("inf", .infinite false), ("nan", .nan 0), ("+inf", .infinite false), ("-inf", .infinite true),
    ("+nan", .nan 0), ("-nan", .nan 0)]

/-- Exactly so many digits in front as a number in a range, and what follows them. -/
def fixedDigits? (count low high : Nat) (text : List Char) : Option (Nat × List Char) :=
  let digits := text.take count
  let value := digitsValue digits
  if digits.length == count && digits.all isDigit && low ≤ value && value ≤ high then
    some (value, text.drop count)
  else none

/-- What follows a character, if it comes first. -/
def after? (c : Char) : List Char → Option (List Char)
  | d :: rest => if c == d then some rest else none
  | [] => none

/-- What follows a time of day with hours, minutes, seconds and a fraction, if one comes first. -/
def afterTime? (text : List Char) : Option (List Char) := do
  let (_, rest) ← fixedDigits? 2 0 23 text
  let (_, rest) ← fixedDigits? 2 0 59 (← after? ':' rest)
  let (_, rest) ← fixedDigits? 2 0 59 (← after? ':' rest)
  match rest with
  | '.' :: fraction =>
    let digits := fraction.takeWhile isDigit
    -- A point without digits does not belong to the time.
    return if digits.isEmpty then rest else fraction.drop digits.length
  | rest => return rest

/-- What follows a distance from universal time, if one comes first. -/
def afterOffset? : List Char → Option (List Char)
  | 'Z' :: rest | 'z' :: rest => some rest
  | sign :: rest => do
    if sign != '+' && sign != '-' then none
    let (_, rest) ← fixedDigits? 2 0 23 rest
    let (_, rest) ← fixedDigits? 2 0 59 (← after? ':' rest)
    return rest
  | [] => none

def isLeapYear (year : Nat) : Bool := year % 4 == 0 && (year % 100 != 0 || year % 400 == 0)

def daysOfMonth (year month : Nat) : Nat :=
  if month == 2 then if isLeapYear year then 29 else 28
  else if [4, 6, 9, 11].contains month then 30
  else 31

/-- A date that may be followed by a time of day: whether there is such a date, and what follows. -/
def dated? (text : List Char) : Option (Bool × List Char) := do
  let (year, rest) ← fixedDigits? 4 0 9999 text
  let (month, rest) ← fixedDigits? 2 1 12 (← after? '-' rest)
  let (day, rest) ← fixedDigits? 2 1 31 (← after? '-' rest)
  -- A day that its month does not have is a fault, and no number instead.
  let exists? := year != 0 && day ≤ daysOfMonth year month
  match rest with
  | mark :: time =>
    if mark == 'T' || mark == 't' || mark == ' ' then
      match afterTime? time with
      | some rest => return (exists?, (afterOffset? rest).getD rest)
      | none => return (exists?, rest)
    else return (exists?, rest)
  | [] => return (exists?, rest)

/-- A date or a time of day, which comes next, or none. -/
def readMoment? (p : Place) : Attempt (Option (Datum × Place)) :=
  let reached (rest : List Char) : Option (Datum × Place) :=
    let length := p.rest.length - rest.length
    some (.moment (String.ofList (p.rest.take length)), p.advance length)
  match dated? p.rest with
  | some (true, rest) => .ok (reached rest)
  | some (false, _) => p.stop .moment
  | none => .ok ((afterTime? p.rest).bind reached)

def integerDigits (number : Datum) (text : List Char) : Nat :=
  match number with
  | .int _ => (text.filter isDigit).length
  | _ => 0

/-- A number, which comes next. -/
def readNumber (p : Place) : Attempt (Datum × Place) :=
  match basedNumber? p.rest, decimalNumber? p.rest with
  | some (number, length), _ => .ok (number, p.advance length)
  | none, some (number, length) =>
    let count := integerDigits number (p.rest.take length)
    if integerDigitLimit < count then p.stop (.tooManyDigits count)
    else .ok (number, p.advance length)
  | none, none =>
    match numberWords.find? fun word => p.sees word.1 with
    | some (word, x) => .ok (.real x, p.advance word.length)
    | none => p.stop .value

end SwayControl.Toml
