import SwayControl.Data.Datum
import SwayControl.Number.Reading
import SwayControl.Text.Blank

/-!
Reading data leniently. Truth values are read from numbers and words as well, numbers from truth values
and texts; where a value does not fit, the misfit says why.
-/

namespace SwayControl

inductive Misfit where
  | notBoolean | notReadableAsBoolean | notText | brokenText | notNumber | notReadableAsNumber
deriving DecidableEq, Repr

def Misfit.text : Misfit → String
  | .notBoolean => "Input should be a valid boolean"
  | .notReadableAsBoolean => "Input should be a valid boolean, unable to interpret input"
  | .notText => "Input should be a valid string"
  | .brokenText => "Input should be a valid string, unable to parse raw data as a unicode string"
  | .notNumber => "Input should be a valid number"
  | .notReadableAsNumber => "Input should be a valid number, unable to parse string as a number"

def Misfit.code : Misfit → String
  | .notBoolean => "bool_type"
  | .notReadableAsBoolean => "bool_parsing"
  | .notText => "string_type"
  | .brokenText => "string_unicode"
  | .notNumber => "float_type"
  | .notReadableAsNumber => "float_parsing"

abbrev Lenient := Except Misfit

namespace Datum

def trueWords : List String := ["1", "on", "t", "true", "y", "yes"]

def falseWords : List String := ["0", "off", "f", "false", "n", "no"]

/-- A truth value from a word, in letters of any case. -/
def flagOfWord? (word : String) : Option Bool :=
  let lower := word.map Char.toLower
  if trueWords.contains lower then some true
  else if falseWords.contains lower then some false
  else none

/-- Whether an integer fits into eight bytes with its sign. -/
def fitsEightBytes (n : Int) : Bool := -0x8000000000000000 ≤ n && n < 0x8000000000000000

/-- A truth value from an integer, which must be one or zero. -/
def flagOfInt (n : Int) : Lenient Bool :=
  if n == 1 then .ok true
  else if n == 0 then .ok false
  else if fitsEightBytes n then .error .notReadableAsBoolean
  else .error .notBoolean

def readFlag : Datum → Lenient Bool
  | .flag on => .ok on
  | .text s => (flagOfWord? s).elim (.error .notReadableAsBoolean) .ok
  | .brokenText _ => .error .brokenText
  | .int n => flagOfInt n
  | .real x => x.toInt?.elim (.error .notBoolean) flagOfInt
  | _ => .error .notBoolean

def readOptionalText : Datum → Lenient (Option String)
  | .absent => .ok none
  | .text s => .ok (some s)
  | .brokenText _ => .error .brokenText
  | _ => .error .notText

/-- A number from a text, with white space around it or low lines inside. -/
def realOfText? (text : List Char) : Option Binary64 :=
  (Binary64.ofText? (Text.trimmed text)).or <|
    if lowLinesApart text then Binary64.ofText? (text.filter (· != '_')) else none

/-- The floating-point number nearest to an integer, unless it is beyond all of them. -/
def realOfInt (n : Int) : Lenient Binary64 :=
  match Binary64.ofRatio (n < 0) n.natAbs 1 with
  | .infinite _ => .error .notNumber
  | x => .ok x

def readReal : Datum → Lenient Binary64
  | .flag on => realOfInt (if on then 1 else 0)
  | .int n => realOfInt n
  | .real x => .ok x
  | .text s => (realOfText? s.toList).elim (.error .notReadableAsNumber) .ok
  | .brokenText _ => .error .brokenText
  | _ => .error .notNumber

end Datum

end SwayControl
