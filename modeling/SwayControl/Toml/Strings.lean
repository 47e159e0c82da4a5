import SwayControl.Toml.Place

/-!
Strings and keys of a configuration text. Strings between double quotes have escapes, those between
single quotes none; three quotes on either side let a string go over lines.
-/

namespace SwayControl.Toml

def shortEscapes : List (Char × Char) :=
  [('b', '\x08'), ('t', '\t'), ('n', '\n'), ('f', '\x0C'), ('r', '\r'), ('"', '"'), ('\\', '\\')]

/-- The character of an escape by number of so many hexadecimal digits, which come next. -/
def readHexEscape (digits : Nat) (p : Place) : Attempt (List Char × Place) :=
  let text := p.rest.take digits
  match if text.length == digits then Text.hexNumber? text else none with
  | none => p.stop .hexValue
  | some point =>
    if h : point.isValidChar then .ok ([Char.ofNatAux point h], p.advance digits)
    else (p.advance digits).stop .noScalar

/-- The place after a backslash at the end of a line, and after all gaps and line breaks that follow. -/
def skipLineEnd (p : Place) : Attempt Place :=
  let after := p.skip isGap
  match after.next? with
  | none => .ok after
  | some '\n' => .ok (after.skip isGapOrBreak)
  | some _ => after.stop .unescaped

/-- The characters that an escape stands for; its backslash comes next. -/
def readEscape (overLines : Bool) (p : Place) : Attempt (List Char × Place) :=
  let after := p.advance 2
  match (p.advance 1).next? with
  | some 'u' => readHexEscape 4 after
  | some 'U' => readHexEscape 8 after
  | some c =>
    if overLines && isGapOrBreak c then
      if c == '\n' then .ok ([], after.skip isGapOrBreak)
      else (skipLineEnd after).map fun place => ([], place)
    else
      match shortEscapes.lookup c with
      | some char => .ok ([char], after)
      | none => after.stop .unescaped
  | none => after.stop .unescaped

/-- The rest of a string between double quotes, after the characters that are done, last one first; at
most `fuel` parts are read. -/
def readBasic (overLines : Bool) : Nat → List Char → Place → Attempt (List Char × Place)
  | 0, _, p => p.stop .unterminated
  | fuel + 1, done, p =>
    match p.next? with
    | none => p.stop .unterminated
    | some '"' =>
      if !overLines then .ok (done.reverse, p.advance 1)
      else if p.sees "\"\"\"" then .ok (done.reverse, p.advance 3)
      else readBasic overLines fuel ('"' :: done) (p.advance 1)
    | some '\\' =>
      match readEscape overLines p with
      | .error fault => .error fault
      | .ok (chars, after) => readBasic overLines fuel (chars.reverse ++ done) after
    | some c =>
      if isControl c && !(overLines && c == '\n') then p.stop (.illegalCharacter c)
      else readBasic overLines fuel (c :: done) (p.advance 1)

/-- A string of one line between double quotes, of which the first comes next. -/
def readBasicLine (p : Place) : Attempt (List Char × Place) :=
  readBasic false (p.rest.length + 1) [] (p.advance 1)

/-- A string of one line between single quotes, of which the first comes next. -/
def readLiteralLine (p : Place) : Attempt (List Char × Place) := do
  let (text, after) ← readBefore "'" isControl (p.advance 1)
  return (text, after.advance 1)

/-- A string over lines with up to two more quotes that follow its end. -/
def withLastQuotes (quote : Char) (text : List Char) (p : Place) : List Char × Place :=
  let more := ((p.rest.take 2).takeWhile (· == quote)).length
  (text ++ List.replicate more quote, p.advance more)

/-- The place after three quotes, and after a line break that follows them at once. -/
def openLines (p : Place) : Place :=
  let after := p.advance 3
  if after.sees "\n" then after.advance 1 else after

def readBasicLines (p : Place) : Attempt (List Char × Place) := do
  let (text, after) ← readBasic true (p.rest.length + 1) [] (openLines p)
  return withLastQuotes '"' text after

def readLiteralLines (p : Place) : Attempt (List Char × Place) := do
  let (text, after) ← readBefore "'''" isControlInLines (openLines p)
  return withLastQuotes '\'' text (after.advance 3)

/-- Whether a character may stand in a key without quotes. -/
def isBareKeyChar (c : Char) : Bool := c.isAlphanum || c == '-' || c == '_'

/-- Whether a character may begin a key. -/
def isKeyStart (c : Char) : Bool := isBareKeyChar c || c == '"' || c == '\''

def readKeyPart (p : Place) : Attempt (String × Place) := do
  match p.next? with
  | some '\'' =>
    let (text, after) ← readLiteralLine p
    return (String.ofList text, after)
  | some '"' =>
    let (text, after) ← readBasicLine p
    return (String.ofList text, after)
  | _ =>
    let text := p.rest.takeWhile isBareKeyChar
    if text.isEmpty then p.stop .keyStart else return (String.ofList text, p.advance text.length)

/-- The parts of a key from here on, with points between them; at most `fuel` parts are read. -/
def readKeyParts : Nat → Place → Attempt (Key × Place)
  | 0, p => p.stop .keyStart
  | fuel + 1, p => do
    let (part, after) ← readKeyPart p
    let after := after.skip isGap
    if after.sees "." then
      let (parts, last) ← readKeyParts fuel ((after.advance 1).skip isGap)
      return (part :: parts, last)
    else return ([part], after)

/-- A key, and the place after the gap that follows it. -/
def readKey (p : Place) : Attempt (Key × Place) := readKeyParts (p.rest.length + 1) p

end SwayControl.Toml
