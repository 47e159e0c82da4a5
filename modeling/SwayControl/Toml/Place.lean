import SwayControl.Data.Datum
import SwayControl.Number.Reading

/-!
Places in a configuration text, and what can be wrong at one. A place is how many characters came
before and those that follow.
-/

namespace SwayControl.Toml

/-- The parts of a dotted key. -/
abbrev Key := List String

inductive Reason where
  | statement | lineEnd | tableEnd | arrayTableEnd | equals | keyStart | overwrite
  | declaredTwice (key : Key)
  | redefined (key : Key)
  | immutable (key : Key)
  | duplicateKey (name : String)
  | unclosedArray | unclosedInlineTable
  | unescaped | hexValue | noScalar | unterminated
  | illegalCharacter (c : Char)
  | invalidCharacter (c : Char)
  | expected (text : String)
  | moment | value
  | tooManyDigits (count : Nat)
deriving DecidableEq, Repr

/-- A key as messages show it. -/
def shownKey (key : Key) : String := Datum.shownItems (key.map Text.quoted)

def Reason.text : Reason → String
  | .statement => "Invalid statement"
  | .lineEnd => "Expected newline or end of document after a statement"
  | .tableEnd => "Expected ']' at the end of a table declaration"
  | .arrayTableEnd => "Expected ']]' at the end of an array declaration"
  | .equals => "Expected '=' after a key in a key/value pair"
  | .keyStart => "Invalid initial character for a key part"
  | .overwrite => "Cannot overwrite a value"
  | .declaredTwice key => "Cannot declare " ++ shownKey key ++ " twice"
  | .redefined key => "Cannot redefine namespace " ++ shownKey key
  | .immutable key => "Cannot mutate immutable namespace " ++ shownKey key
  | .duplicateKey name => "Duplicate inline table key " ++ Text.quoted name
  | .unclosedArray => "Unclosed array"
  | .unclosedInlineTable => "Unclosed inline table"
  | .unescaped => "Unescaped '\\' in a string"
  | .hexValue => "Invalid hex value"
  | .noScalar => "Escaped character is not a Unicode scalar value"
  | .unterminated => "Unterminated string"
  | .illegalCharacter c => "Illegal character " ++ Text.quoted (String.singleton c)
  | .invalidCharacter c => "Found invalid character " ++ Text.quoted (String.singleton c)
  | .expected text => "Expected " ++ Text.quoted text
  | .moment => "Invalid date or datetime"
  | .value => "Invalid value"
  | .tooManyDigits count => tooManyDigitsText count

structure Place where
  position : Nat
  rest : List Char

/-- What is wrong, and at which position. -/
abbrev Stop := Reason × Nat

/-- The outcome of reading a part of a text. -/
abbrev Attempt := Except Stop

namespace Place

def stop {α : Type} (p : Place) (reason : Reason) : Attempt α := .error (reason, p.position)

def advance (p : Place) (count : Nat) : Place := ⟨p.position + count, p.rest.drop count⟩

/-- The place after the characters in front that pass a test. -/
def skip (p : Place) (test : Char → Bool) : Place := p.advance (p.rest.takeWhile test).length

def sees (p : Place) (text : String) : Bool := text.toList.isPrefixOf p.rest

def next? (p : Place) : Option Char := p.rest.head?

end Place

/-- Whether a character separates words of a line. -/
def isGap (c : Char) : Bool := c == ' ' || c == '\t'

/-- Whether a character separates words or lines. -/
def isGapOrBreak (c : Char) : Bool := isGap c || c == '\n'

/-- Whether a character is a control character of ASCII, the tab apart. -/
def isControl (c : Char) : Bool := (c.toNat < 32 && c != '\t') || c.toNat == 127

/-- Whether a character is a control character of ASCII, tab and line break apart. -/
def isControlInLines (c : Char) : Bool := isControl c && c != '\n'

/-- What comes before the first occurrence of a text. -/
def before? (mark : List Char) : List Char → Option (List Char)
  | [] => if mark.isEmpty then some [] else none
  | c :: rest =>
    if mark.isPrefixOf (c :: rest) then some [] else (before? mark rest).map (c :: ·)

/-- What comes before a mark, which must come, and the place of the mark. No character of what comes
before may be among the forbidden ones. -/
def readBefore (mark : String) (forbidden : Char → Bool) (p : Place) : Attempt (List Char × Place) :=
  match before? mark.toList p.rest with
  | none => (p.advance p.rest.length).stop (.expected mark)
  | some found =>
    match found.find? forbidden with
    | some c => (p.skip fun d => !forbidden d).stop (.invalidCharacter c)
    | none => .ok (found, p.advance found.length)

/-- The place after a comment, if one comes next. -/
def skipComment (p : Place) : Attempt Place :=
  if p.sees "#" then
    let body := (p.advance 1).rest.takeWhile (· != '\n')
    match body.find? isControl with
    | some c => ((p.advance 1).skip fun d => !isControl d).stop (.invalidCharacter c)
    | none => .ok (p.advance (body.length + 1))
  else .ok p

end SwayControl.Toml
