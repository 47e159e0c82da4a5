import SwayControl.Text.Quoted

/-!
Frames: messages between a client and the window manager. A frame is a magic word, the length of the
payload and the type of the message as numbers of four bytes, least significant first, and the payload.
-/

namespace SwayControl.Frame

/-- The word that every frame begins with. -/
def magic : List UInt8 := [0x69, 0x33, 0x2D, 0x69, 0x70, 0x63]

/-- The length of a header: the magic word and two numbers. -/
def headerSize : Nat := magic.length + 8

/-- The last bytes of a number, as many as asked, least significant first. -/
def littleEndian : Nat → Nat → List UInt8
  | 0, _ => []
  | count + 1, n => (n % 256).toUInt8 :: littleEndian count (n / 256)

/-- The number that bytes spell, least significant first. -/
def number : List UInt8 → Nat
  | [] => 0
  | b :: rest => b.toNat + 256 * number rest

/-- Why a message cannot be framed: a number of it has no four bytes. -/
inductive PackFault where
  | outOfRange | tooLarge
deriving DecidableEq, Repr

def PackFault.message : PackFault → String
  | .outOfRange => "argument out of range"
  | .tooLarge => "'I' format requires 0 <= number <= 4294967295"

/-- The four bytes of a number. A number beyond eight bytes is reported as one below zero is. -/
def word (n : Int) : Except PackFault (List UInt8) :=
  if n < 0 || 0x10000000000000000 ≤ n then .error .outOfRange
  else if 0x100000000 ≤ n then .error .tooLarge
  else .ok (littleEndian 4 n.toNat)

def pack (type : Int) (payload : List UInt8) : Except PackFault (List UInt8) := do
  return magic ++ (← word payload.length) ++ (← word type) ++ payload

/-- What a header says: the length of the payload and the type of the message. -/
structure Header where
  length : Nat
  type : Nat
deriving DecidableEq, Repr

inductive HeaderFault where
  | truncated (size : Nat)
  | badMagic (found : List UInt8)
deriving DecidableEq, Repr

def HeaderFault.message : HeaderFault → String
  | .truncated size =>
    "Truncated header: expected " ++ toString headerSize ++ " bytes, got " ++ toString size
  | .badMagic found => "Bad magic string: " ++ Text.quotedBytes found

def readHeader (bytes : List UInt8) : Except HeaderFault Header :=
  if bytes.length != headerSize then .error (.truncated bytes.length)
  else if bytes.take magic.length != magic then .error (.badMagic (bytes.take magic.length))
  else
    let numbers := bytes.drop magic.length
    .ok ⟨number (numbers.take 4), number (numbers.drop 4)⟩

end SwayControl.Frame
