import SwayControl.Data.Datum

/-!
Writing data as JSON, in two ways. In one line it has nothing but ASCII, with or without blanks; the
indented form puts every member on a line of its own, keeps all characters that need no escape, and has no
numbers that are not finite.
-/

namespace SwayControl.Json

/-- The letters of the short escapes in a string. -/
def escapeLetters : List (Char × Char) :=
  [('"', '"'), ('\\', '\\'), ('\n', 'n'), ('\r', 'r'), ('\t', 't'), ('\x0C', 'f'), ('\x08', 'b')]

/-- The escape of one unit by its number. -/
def unitEscape (unit : Nat) : List Char := ['\\', 'u'] ++ Text.hexDigits false 4 unit

/-- The escape of a character by the numbers of its units, of which it has two above the first
plane. -/
def pointEscape (point : Nat) : List Char :=
  if point < 0x10000 then unitEscape point
  else
    let rest := point - 0x10000
    unitEscape (0xD800 + rest / 0x400) ++ unitEscape (0xDC00 + rest % 0x400)

/-- A character in a string, by a short escape if it has one, else by its number unless it may stand
as it is. -/
def stringChar (mayStand : Char → Bool) (c : Char) : List Char :=
  match escapeLetters.lookup c with
  | some letter => ['\\', letter]
  | none => if mayStand c then [c] else pointEscape c.toNat

/-- A text as a string. -/
def quotedWith (mayStand : Char → Bool) (text : String) : String :=
  String.ofList (['"'] ++ text.toList.flatMap (stringChar mayStand) ++ ['"'])

def isVisibleAscii (c : Char) : Bool := 0x20 ≤ c.toNat && c.toNat < 0x7F

/-- Whether a character is no control character below the space. -/
def isNoControl (c : Char) : Bool := 0x20 ≤ c.toNat

def asciiQuoted : String → String := quotedWith isVisibleAscii

/-- A text as a string that keeps what needs no escape. -/
def plainQuoted : String → String := quotedWith isNoControl

def asciiPoints (points : List Nat) : String :=
  String.ofList (['"'] ++ points.flatMap pointChars ++ ['"'])
where
  /-- One code point in a string of ASCII. -/
  pointChars (point : Nat) : List Char :=
    if point.isValidChar then stringChar isVisibleAscii (Char.ofNat point) else unitEscape point

/-- A number in a line, where there are words for those that are not finite. -/
def lineReal : Binary64 → String
  | .nan _ => "NaN"
  | .infinite negative => if negative then "-Infinity" else "Infinity"
  | x => x.shown

/-- What stands between the members of a list or table in one line, and between key and value. -/
structure LineMarks where
  comma : String
  colon : String
deriving DecidableEq, Repr

mutual

def inLine (marks : LineMarks) : Datum → String
  | .absent => "null"
  | .flag on => if on then "true" else "false"
  | .int n => toString n
  | .real x => lineReal x
  | .text s => asciiQuoted s
  | .brokenText points => asciiPoints points
  | .moment written => asciiQuoted written
  | .list items => "[" ++ marks.comma.intercalate (inLineAll marks items) ++ "]"
  | .tuple items => "[" ++ marks.comma.intercalate (inLineAll marks items) ++ "]"
  | .table entries => "\x7b" ++ marks.comma.intercalate (inLineEntries marks entries) ++ "\x7d"

def inLineAll (marks : LineMarks) : List Datum → List String
  | [] => []
  | item :: rest => inLine marks item :: inLineAll marks rest

def inLineEntries (marks : LineMarks) : List (String × Datum) → List String
  | [] => []
  | (key, value) :: rest =>
    (asciiQuoted key ++ marks.colon ++ inLine marks value) :: inLineEntries marks rest

end

/-- A value in one line without blanks. -/
def compact : Datum → String := inLine ⟨",", ":"⟩

/-- A value in one line with a space behind every comma and colon. -/
def spacedLine : Datum → String := inLine ⟨", ", ": "⟩

/-- Numbers of the indented form: positional from 0.00001 below 1e+16, and exponents with their
sign. -/
def indentedStyle : DecimalStyle := ⟨-5, 15, true, 1⟩

/-- A number in the indented form, which is null where it is not finite. -/
def indentedReal : Binary64 → String
  | .nan _ | .infinite _ => "null"
  | x => indentedStyle.writeBinary x

/-- The line break before a member at a depth, with two spaces for each level. -/
def lineBreak (depth : Nat) : String := "\n" ++ String.ofList (List.replicate (2 * depth) ' ')

/-- Members of a list or table at a depth between its brackets, each on a line of its own. -/
def bracketLines (depth : Nat) (opening closing : String) (members : List String) : String :=
  if members.isEmpty then opening ++ closing
  else
    opening ++ ",".intercalate (members.map fun member => lineBreak (depth + 1) ++ member) ++
      lineBreak depth ++ closing

mutual

def indentedAt (depth : Nat) : Datum → String
  | .absent => "null"
  | .flag on => if on then "true" else "false"
  | .int n => toString n
  | .real x => indentedReal x
  | .text s => plainQuoted s
  | .brokenText points => asciiPoints points
  | .moment written => plainQuoted written
  | .list items => bracketLines depth "[" "]" (indentedAll (depth + 1) items)
  | .tuple items => bracketLines depth "[" "]" (indentedAll (depth + 1) items)
  | .table entries => bracketLines depth "\x7b" "\x7d" (indentedEntries (depth + 1) entries)

def indentedAll (depth : Nat) : List Datum → List String
  | [] => []
  | item :: rest => indentedAt depth item :: indentedAll depth rest

def indentedEntries (depth : Nat) : List (String × Datum) → List String
  | [] => []
  | (key, value) :: rest =>
    (plainQuoted key ++ ": " ++ indentedAt depth value) :: indentedEntries depth rest

end

def indented (value : Datum) : String := indentedAt 0 value

end SwayControl.Json
