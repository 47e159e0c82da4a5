import SwayControl.Text.Hexadecimal
import SwayControl.Text.Printable

/-!
Texts and bytes shown between quotes. Single quotes are used unless the text holds one and no double
quote; the quote in use, the backslash, and what does not print are escaped.
-/

namespace SwayControl.Text

/-- A single quote, unless the text holds one and no double quote. -/
def quoteFor (text : List Char) : Char :=
  if text.contains '\'' && !text.contains '"' then '"' else '\''

/-- One character of a shown text: itself, a short escape, or its code point in two, four or eight
hexadecimal digits. -/
def shownChar (quote c : Char) : List Char :=
  if c == quote || c == '\\' then ['\\', c]
  else if c == '\n' then ['\\', 'n']
  else if c == '\r' then ['\\', 'r']
  else if c == '\t' then ['\\', 't']
  else if isPrintable c then [c]
  else if c.toNat < 0x100 then ['\\', 'x'] ++ hexDigits false 2 c.toNat
  else if c.toNat < 0x10000 then ['\\', 'u'] ++ hexDigits false 4 c.toNat
  else ['\\', 'U'] ++ hexDigits false 8 c.toNat

/-- A text as it is shown inside messages. -/
def quoted (text : String) : String :=
  let cs := text.toList
  let quote := quoteFor cs
  String.ofList ([quote] ++ cs.flatMap (shownChar quote) ++ [quote])

/-- One byte of a shown byte string: itself if it is a visible ASCII character or the space. -/
def shownByte (quote : Char) (b : UInt8) : List Char :=
  let c := Char.ofNat b.toNat
  if c == quote || c == '\\' then ['\\', c]
  else if c == '\n' then ['\\', 'n']
  else if c == '\r' then ['\\', 'r']
  else if c == '\t' then ['\\', 't']
  else if 0x20 ≤ b.toNat && b.toNat < 0x7F then [c]
  else ['\\', 'x'] ++ hexDigits false 2 b.toNat

/-- A byte string as it is shown inside messages, marked by a leading `b`. -/
def quotedBytes (bytes : List UInt8) : String :=
  let quote := quoteFor (bytes.map fun b => Char.ofNat b.toNat)
  String.ofList (['b', quote] ++ bytes.flatMap (shownByte quote) ++ [quote])

end SwayControl.Text
