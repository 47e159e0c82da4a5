import SwayControl.Text.Hexadecimal

/-!
Encodings of Unicode text. A text is decoded into code points, where a surrogate that stands alone is
kept as one; the first byte that cannot be read is reported with its place and the reason.
-/

namespace SwayControl.Text

/-- The ways in which a byte string can spell code points. -/
inductive Encoding where
  | utf8
  | utf16 (bigEndian : Bool)
  | utf32 (bigEndian : Bool)
deriving DecidableEq, Repr

def Encoding.name : Encoding → String
  | .utf8 => "utf-8"
  | .utf16 bigEndian => if bigEndian then "utf-16-be" else "utf-16-le"
  | .utf32 bigEndian => if bigEndian then "utf-32-be" else "utf-32-le"

/-- Why bytes spell no code point. -/
inductive DecodeReason where
  | startByte | continuationByte | endOfData | truncated | outOfRange
deriving DecidableEq, Repr

def DecodeReason.text : DecodeReason → String
  | .startByte => "invalid start byte"
  | .continuationByte => "invalid continuation byte"
  | .endOfData => "unexpected end of data"
  | .truncated => "truncated data"
  | .outOfRange => "code point not in range(0x110000)"

/-- Bytes that spell no code point: the first of them, where they stand, and how many they are. -/
structure DecodeFault where
  encoding : Encoding
  byte : UInt8
  position : Nat
  count : Nat
  reason : DecodeReason
deriving DecidableEq, Repr

/-- What follows the first byte of a code point: the code point and how many more bytes spell it, or
why there is none and how many bytes are at fault. -/
abbrev NextPoint := Except (Nat × DecodeReason) (Nat × Nat)

/-- Whether a byte continues a code point. -/
def isContinuation (b : UInt8) : Bool := b.toNat / 64 == 2

/-- The six bits that a continuing byte adds. -/
def withContinuation (point : Nat) (b : UInt8) : Nat := point * 64 + b.toNat % 64

/-- Whether a byte may be the second of the code point that another begins: it continues, and is none
of those that would spell a shorter form, a surrogate, or a number out of range. -/
def mayFollow (first second : UInt8) : Bool :=
  isContinuation second &&
    match first.toNat with
    | 0xE0 => 0xA0 ≤ second.toNat
    | 0xED => second.toNat < 0xA0
    | 0xF0 => 0x90 ≤ second.toNat
    | 0xF4 => second.toNat < 0x90
    | _ => true

def nextOfTwo (first : UInt8) : List UInt8 → NextPoint
  | [] => .error (1, .endOfData)
  | second :: _ =>
    if isContinuation second then .ok (withContinuation (first.toNat % 32) second, 1)
    else .error (1, .continuationByte)

/-- The code point of three bytes. Surrogates are read as well. -/
def nextOfThree (first : UInt8) : List UInt8 → NextPoint
  | [] => .error (1, .endOfData)
  | second :: rest =>
    -- Surrogates are spelt by three bytes as other code points of their size are.
    let surrogate := first == 0xED && isContinuation second && rest.head?.any isContinuation
    if !mayFollow first second && !surrogate then .error (1, .continuationByte)
    else
      match rest with
      | [] => .error (2, .endOfData)
      | third :: _ =>
        if isContinuation third then
          .ok (withContinuation (withContinuation (first.toNat % 16) second) third, 2)
        else .error (2, .continuationByte)

def nextOfFour (first : UInt8) : List UInt8 → NextPoint
  | [] => .error (1, .endOfData)
  | second :: rest =>
    if !mayFollow first second then .error (1, .continuationByte)
    else
      match rest with
      | [] => .error (2, .endOfData)
      -- Bytes that end too early are at fault as far as they are good.
      | [third] => if isContinuation third then .error (3, .endOfData) else .error (2, .continuationByte)
      | third :: fourth :: _ =>
        if !isContinuation third then .error (2, .continuationByte)
        else if !isContinuation fourth then .error (3, .continuationByte)
        else
          let point := withContinuation (withContinuation (first.toNat % 8) second) third
          .ok (withContinuation point fourth, 3)

/-- The code point that a byte begins in the encoding of one to four bytes. -/
def nextOfBytes (first : UInt8) (rest : List UInt8) : NextPoint :=
  let n := first.toNat
  if n < 0x80 then .ok (n, 0)
  else if n < 0xC2 then .error (1, .startByte)
  else if n < 0xE0 then nextOfTwo first rest
  else if n < 0xF0 then nextOfThree first rest
  else if n < 0xF5 then nextOfFour first rest
  else .error (1, .startByte)

/-- The number that bytes spell, the most significant one first if asked. -/
def bytesNumber (bigEndian : Bool) (bytes : List UInt8) : Nat :=
  (if bigEndian then bytes else bytes.reverse).foldl (fun total b => total * 256 + b.toNat) 0

/-- Whether a unit begins a pair of surrogates. -/
def isHighSurrogate (unit : Nat) : Bool := 0xD800 ≤ unit && unit < 0xDC00

/-- Whether a unit ends a pair of surrogates. -/
def isLowSurrogate (unit : Nat) : Bool := 0xDC00 ≤ unit && unit < 0xE000

/-- The code point that a pair of surrogates stands for. -/
def joinSurrogates (high low : Nat) : Nat :=
  0x10000 + (high - 0xD800) * 0x400 + (low - 0xDC00)

/-- The code point that a byte begins in the encoding of units of two bytes. -/
def nextOfUnits (bigEndian : Bool) (first : UInt8) : List UInt8 → NextPoint
  | [] => .error (1, .truncated)
  | second :: rest =>
    let unit := bytesNumber bigEndian [first, second]
    match rest with
    | third :: fourth :: _ =>
      let other := bytesNumber bigEndian [third, fourth]
      -- Half of a pair that is not completed stands for itself.
      if isHighSurrogate unit && isLowSurrogate other then .ok (joinSurrogates unit other, 3)
      else .ok (unit, 1)
    | _ => .ok (unit, 1)

/-- The code point that a byte begins in the encoding of four bytes each. -/
def nextOfWords (bigEndian : Bool) (first : UInt8) : List UInt8 → NextPoint
  | second :: third :: fourth :: _ =>
    let point := bytesNumber bigEndian [first, second, third, fourth]
    if point < 0x110000 then .ok (point, 3) else .error (4, .outOfRange)
  | rest => .error (rest.length + 1, .truncated)

def Encoding.next : Encoding → UInt8 → List UInt8 → NextPoint
  | .utf8 => nextOfBytes
  | .utf16 bigEndian => nextOfUnits bigEndian
  | .utf32 bigEndian => nextOfWords bigEndian

/-- Decodes bytes that stand at a position, after the code points that are done, last one first. -/
def Encoding.decodeFrom (e : Encoding) (position : Nat) (done : List Nat) :
    List UInt8 → Except DecodeFault (List Nat)
  | [] => .ok done.reverse
  | b :: rest =>
    match e.next b rest with
    | .error (count, reason) => .error ⟨e, b, position, count, reason⟩
    | .ok (point, more) => e.decodeFrom (position + more + 1) (point :: done) (rest.drop more)
termination_by bytes => bytes.length
decreasing_by simp only [List.length_drop, List.length_cons]; omega

def DecodeFault.message (fault : DecodeFault) : String :=
  let place :=
    if fault.count == 1 then
      "byte 0x" ++ String.ofList (hexByte fault.byte) ++ " in position " ++ toString fault.position
    else
      "bytes in position " ++ toString fault.position ++ "-" ++
        toString (fault.position + fault.count - 1)
  "'" ++ fault.encoding.name ++ "' codec can't decode " ++ place ++ ": " ++ fault.reason.text
where
  /-- The two digits of a byte. -/
  hexByte (b : UInt8) : List Char := hexDigits false 2 b.toNat

/-- The characters of a list of code points, if none of them is a surrogate. -/
def charsOfPoints? (points : List Nat) : Option (List Char) :=
  points.mapM fun point =>
    if h : point.isValidChar then some (Char.ofNatAux point h) else none

end SwayControl.Text
