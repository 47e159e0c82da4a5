import SwayControl.Data.Datum
import SwayControl.Number.Reading
import SwayControl.Text.Encoding

/-!
Reading JSON from bytes. The encoding is found from a mark or from the zero bytes in front. Besides the
standard forms there are `NaN` and the infinities; of two entries with one key the last counts. A
surrogate that stands alone is kept in a value, but not in a key. A text that is no JSON is refused at
the first place where it cannot go on. Where lists and tables lie in each other deeper than the reader
goes it gives up, which says nothing of the text.
-/

namespace SwayControl

/-- What JSON text lacks or holds wrongly. -/
inductive JsonReason where
  | value | propertyName | colon | comma | extraData | unterminated | controlCharacter
  | escape | unicodeEscape
deriving DecidableEq, Repr

def JsonReason.text : JsonReason → String
  | .value => "Expecting value"
  | .propertyName => "Expecting property name enclosed in double quotes"
  | .colon => "Expecting ':' delimiter"
  | .comma => "Expecting ',' delimiter"
  | .extraData => "Extra data"
  | .unterminated => "Unterminated string starting at"
  | .controlCharacter => "Invalid control character at"
  | .escape => "Invalid \\escape"
  | .unicodeEscape => "Invalid \\uXXXX escape"

/-- Why bytes are no JSON: they spell no text, the text goes wrong at a place, or an integer has too
many digits. -/
inductive JsonFault where
  | notText (fault : Text.DecodeFault)
  | wrong (reason : JsonReason) (position line column : Nat)
  | tooManyDigits (count : Nat)
deriving DecidableEq, Repr

def JsonFault.message : JsonFault → String
  | .notText fault => fault.message
  | .wrong reason position line column =>
    reason.text ++ ": line " ++ toString line ++ " column " ++ toString column ++
      " (char " ++ toString position ++ ")"
  | .tooManyDigits count => tooManyDigitsText count

namespace Json

/-- What values may lie in. -/
inductive Container where
  | list | table
deriving DecidableEq, Repr

def Container.name : Container → String
  | .list => "array"
  | .table => "object"

/-- Why bytes give no value: they are no JSON, or a list or table in them lies deeper than the reader
goes. -/
inductive Unread where
  | malformed (fault : JsonFault)
  | tooDeep (inner : Container)
deriving DecidableEq, Repr

/-- What is said where the reader gives up. -/
def Container.tooDeepText (inner : Container) : String :=
  "maximum recursion depth exceeded while decoding a JSON " ++ inner.name ++ " from a unicode string"

/-- Starts of texts that mark their encoding, with the length of the mark that is no part of it. -/
def markedEncoding? : List UInt8 → Option (Text.Encoding × Nat)
  | 0x00 :: 0x00 :: 0xFE :: 0xFF :: _ => some (.utf32 true, 4)
  | 0xFF :: 0xFE :: 0x00 :: 0x00 :: _ => some (.utf32 false, 4)
  | 0xFE :: 0xFF :: _ => some (.utf16 true, 2)
  | 0xFF :: 0xFE :: _ => some (.utf16 false, 2)
  | 0xEF :: 0xBB :: 0xBF :: _ => some (.utf8, 3)
  | _ => none

/-- The encoding of a text without a mark. JSON begins with ASCII, so zero bytes show the width. -/
def unmarkedEncoding : List UInt8 → Text.Encoding
  | [a, b] => if a == 0 then .utf16 true else if b == 0 then .utf16 false else .utf8
  | a :: b :: c :: d :: _ =>
    if a == 0 then if b == 0 then .utf32 true else .utf16 true
    else if b == 0 then if c == 0 && d == 0 then .utf32 false else .utf16 false
    else .utf8
  | _ => .utf8

/-- The code points of a text in the encoding that it is found to have. Places in a text of bytes are
counted after its mark. -/
def decode (bytes : List UInt8) : Except Text.DecodeFault (List Nat) :=
  match markedEncoding? bytes with
  | some (encoding, mark) =>
    encoding.decodeFrom (if encoding == .utf8 then 0 else mark) [] (bytes.drop mark)
  | none => (unmarkedEncoding bytes).decodeFrom 0 [] bytes

/-- A place in a text: how many code points came before, and those that follow. -/
structure Cursor where
  position : Nat
  rest : List Nat

/-- What is wrong, and where. -/
abbrev Stop := JsonReason × Nat

/-- What ends the reading of a text before its end: something that is wrong at a place, an integer with
too many digits, or a list or table that lies too deep. -/
inductive Obstacle where
  | wrong (stop : Stop)
  | tooManyDigits (count : Nat)
  | tooDeep (inner : Container)

/-- The outcome of reading a part of a text. -/
abbrev Attempt := Except Obstacle

def stop {α : Type} (reason : JsonReason) (position : Nat) : Attempt α :=
  .error (.wrong (reason, position))

def Cursor.advance (c : Cursor) (count : Nat) : Cursor := ⟨c.position + count, c.rest.drop count⟩

/-- Whether a code point may stand between the parts of JSON. -/
def isGap (point : Nat) : Bool := point == 0x20 || point == 0x09 || point == 0x0A || point == 0x0D

/-- The place after the gap that begins here. -/
def Cursor.skipGap (c : Cursor) : Cursor := c.advance (c.rest.takeWhile isGap).length

def Cursor.sees (c : Cursor) (char : Char) : Bool := c.rest.head? == some char.toNat

def Cursor.seesWord (c : Cursor) (word : String) : Bool :=
  (word.toList.map Char.toNat).isPrefixOf c.rest

/-- The values that are written as words. -/
def words : List (String × Datum) :=
  [("null", .absent), ("true", .flag true), ("false", .flag false), ("NaN", .real (.nan 0)),
    ("Infinity", .real (.infinite false)), ("-Infinity", .real (.infinite true))]

def isDigitPoint (point : Nat) : Bool := 0x30 ≤ point && point ≤ 0x39

def digitsOf (points : List Nat) : List Nat := points.takeWhile isDigitPoint

/-- The length of the fraction in front: a point and at least one digit, or nothing. -/
def fractionLength : List Nat → Nat
  | 0x2E :: rest => if (digitsOf rest).isEmpty then 0 else (digitsOf rest).length + 1
  | _ => 0

/-- The length of the exponent in front: its letter, a sign, and at least one digit, or nothing. -/
def exponentLength : List Nat → Nat
  | mark :: rest =>
    if mark == 0x65 || mark == 0x45 then
      let sign := if rest.head? == some 0x2B || rest.head? == some 0x2D then 1 else 0
      let digits := (digitsOf (rest.drop sign)).length
      if digits == 0 then 0 else digits + sign + 1
    else 0
  | [] => 0

/-- The length of the whole part in front: one zero, or digits that begin with none. -/
def wholeLength (points : List Nat) : Nat :=
  if points.head? == some 0x30 then 1 else (digitsOf points).length

/-- A number. One with a fraction or an exponent is no integer. -/
def readNumber (c : Cursor) : Attempt (Datum × Cursor) :=
  let sign := if c.sees '-' then 1 else 0
  let whole := wholeLength (c.rest.drop sign)
  if whole == 0 then stop .value c.position
  else
    let fraction := fractionLength (c.rest.drop (sign + whole))
    let exponent := exponentLength (c.rest.drop (sign + whole + fraction))
    let length := sign + whole + fraction + exponent
    let text := (c.rest.take length).map Char.ofNat
    if fraction + exponent == 0 then
      if whole > integerDigitLimit then .error (.tooManyDigits whole)
      else .ok (.int ((integer? text).getD 0), c.advance length)
    else .ok (.real ((Binary64.ofText? text).getD (.nan 0)), c.advance length)

/-- The code point that a short escape stands for. -/
def shortEscape? (point : Nat) : Option Nat :=
  ([('"', 0x22), ('\\', 0x5C), ('/', 0x2F), ('b', 0x08), ('f', 0x0C), ('n', 0x0A), ('r', 0x0D),
    ('t', 0x09)].map fun (char, value) => (char.toNat, value)).lookup point

/-- The number of four hexadecimal digits in front. -/
def hexUnit? (points : List Nat) : Option Nat :=
  if (points.take 4).length == 4 then Text.hexNumber? ((points.take 4).map Char.ofNat) else none

/-- The low surrogate of a pair whose high one came before, if its escape comes next and something
follows it. -/
def lowEscape? : List Nat → Option (Option Nat)
  | 0x5C :: 0x75 :: rest => if rest.length > 4 then some (hexUnit? rest) else none
  | _ => none

/-- The code point of an escape after its letter `u`, and the length of its digits. A pair of escapes
that are surrogates is one code point. -/
def readUnicodeEscape (c : Cursor) : Except Stop (Nat × Nat) :=
  -- Behind the four digits something must follow, at the least the quote that ends the string.
  if c.rest.length < 5 then .error (.unicodeEscape, c.position - 1)
  else
    match hexUnit? c.rest with
    | none => .error (.unicodeEscape, c.position - 1)
    | some unit =>
      if Text.isHighSurrogate unit then
        match lowEscape? (c.rest.drop 4) with
        | some (some low) =>
          -- A high surrogate that no low one follows is kept as it is.
          if Text.isLowSurrogate low then .ok (Text.joinSurrogates unit low, 10) else .ok (unit, 4)
        | some none => .error (.unicodeEscape, c.position + 5)
        | none => .ok (unit, 4)
      else .ok (unit, 4)

/-- The rest of a string that began at a place, after the code points that are done, last one first;
at most `fuel` of them are read. -/
def readString (start : Nat) : Nat → List Nat → Cursor → Attempt (List Nat × Cursor)
  | 0, _, _ => stop .unterminated start
  | fuel + 1, done, c =>
    match c.rest with
    | [] => stop .unterminated start
    | 0x22 :: _ => .ok (done.reverse, c.advance 1)
    | 0x5C :: [] => stop .unterminated start
    | 0x5C :: 0x75 :: _ =>
      match readUnicodeEscape (c.advance 2) with
      | .error fault => .error (.wrong fault)
      | .ok (point, length) => readString start fuel (point :: done) (c.advance (length + 2))
    | 0x5C :: mark :: _ =>
      match shortEscape? mark with
      | some point => readString start fuel (point :: done) (c.advance 2)
      | none => stop .escape c.position
    | point :: _ =>
      if point < 0x20 then stop .controlCharacter c.position
      else readString start fuel (point :: done) (c.advance 1)

def readQuoted (c : Cursor) : Attempt (List Nat × Cursor) :=
  readString c.position (c.rest.length + 1) [] (c.advance 1)

/-- A text of code points as data. -/
def textDatum (points : List Nat) : Datum :=
  match Text.charsOfPoints? points with
  | some chars => .text (String.ofList chars)
  | none => .brokenText points

/-- A text of code points as a key. Surrogates are replaced: the names that keys are compared with have
none, so that a key with one names nothing either way. -/
def keyText (points : List Nat) : String :=
  String.ofList (points.map fun point => if point.isValidChar then Char.ofNat point else '\uFFFD')

mutual

/-- The value in front. So many more lists and tables may lie in each other as there is room. -/
def readValue : Nat → Nat → Cursor → Attempt (Datum × Cursor)
  | 0, _, c => stop .value c.position
  | fuel + 1, room, c =>
    match c.rest with
    | 0x22 :: _ => do
      let (points, c) ← readQuoted c
      return (textDatum points, c)
    | 0x7B :: _ =>
      match room with
      | 0 => .error (.tooDeep .table)
      | room + 1 =>
        let first := (c.advance 1).skipGap
        if first.sees '}' then .ok (.table [], first.advance 1) else readEntries fuel room [] first
    | 0x5B :: _ =>
      match room with
      | 0 => .error (.tooDeep .list)
      | room + 1 =>
        let first := (c.advance 1).skipGap
        if first.sees ']' then .ok (.list [], first.advance 1) else readItems fuel room [] first
    | _ =>
      match words.find? fun word => c.seesWord word.1 with
      | some (word, value) => .ok (value, c.advance word.length)
      | none => readNumber c

/-- The items of a list from here on, after those that are done, last one first. -/
def readItems : Nat → Nat → List Datum → Cursor → Attempt (Datum × Cursor)
  | 0, _, _, c => stop .value c.position
  | fuel + 1, room, done, c => do
    let (item, after) ← readValue fuel room c
    let c := after.skipGap
    if c.sees ']' then return (.list (item :: done).reverse, c.advance 1)
    else if c.sees ',' then readItems fuel room (item :: done) (c.advance 1).skipGap
    else stop .comma c.position

/-- The entries of a table from here on, after those that are done, last one first. -/
def readEntries : Nat → Nat → List (String × Datum) → Cursor → Attempt (Datum × Cursor)
  | 0, _, _, c => stop .value c.position
  | fuel + 1, room, done, c =>
    if !c.sees '"' then stop .propertyName c.position
    else do
      let (key, after) ← readQuoted c
      let c := after.skipGap
      if !c.sees ':' then stop .colon c.position
      else
        let (value, after) ← readValue fuel room (c.advance 1).skipGap
        let c := after.skipGap
        let done := (keyText key, value) :: done
        if c.sees '}' then return (.table (Entries.ofSettings done.reverse), c.advance 1)
        else if c.sees ',' then readEntries fuel room done (c.advance 1).skipGap
        else stop .comma c.position

end

/-- What is wrong at a place of a text, with the line and the column of the place. -/
def faultAt (points : List Nat) (reason : JsonReason) (position : Nat) : JsonFault :=
  let before := points.take position
  let line := (before.filter (· == 0x0A)).length + 1
  let column := (before.reverse.takeWhile (· != 0x0A)).length + 1
  .wrong reason position line column

/-- How deep the reader usually goes: it is stopped by the calls that are under way, of which there may be a
thousand, and some are under way before it begins. -/
def usualNesting : Nat := 960

/-- The value that is the whole of a text. The outermost list or table is always read; what lies in it may
lie in so many others more. -/
def readWhole (nesting : Nat) (points : List Nat) : Attempt Datum := do
  -- A value and a list of members take turns, and every other turn takes a code point.
  let (value, after) ←
    readValue (2 * points.length + 2) (nesting + 1) (Cursor.skipGap ⟨0, points⟩)
  let c := after.skipGap
  if c.rest.isEmpty then return value else stop .extraData c.position

/-- What an obstacle in a text says of it. -/
def Obstacle.unread (points : List Nat) : Obstacle → Unread
  | .wrong (reason, position) => .malformed (faultAt points reason position)
  | .tooManyDigits count => .malformed (.tooManyDigits count)
  | .tooDeep inner => .tooDeep inner

/-- The value that a text of code points spells. -/
def readPoints (nesting : Nat) (points : List Nat) : Except Unread Datum :=
  (readWhole nesting points).mapError (Obstacle.unread points)

/-- The value that bytes spell. -/
def read (nesting : Nat) (bytes : List UInt8) : Except Unread Datum :=
  match decode bytes with
  | .ok points => readPoints nesting points
  | .error fault => .error (.malformed (.notText fault))

end Json

end SwayControl
