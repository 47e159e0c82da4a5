import SwayControl.Number.Basic

/-!
Sockets and what they meet. A peer accepts a connection or not, takes what is sent or fails, and has
chunks to be read one after another; reading takes at most what is asked for from the first chunk. An
empty chunk, or none, is the end of the stream.
-/

namespace SwayControl

/-- How an attempt to connect ends. -/
inductive Connecting where
  | accepted
  | missing
  | refused (reason : String)
deriving DecidableEq, Repr

/-- What a peer has to be read next: bytes, or a failure of that read. -/
inductive Incoming where
  | chunk (bytes : List UInt8)
  | failure (reason : String)
deriving DecidableEq, Repr

/-- The other end of a socket. -/
structure Peer where
  connecting : Connecting
  sendFailure : Option String
  incoming : List Incoming
deriving Repr

def Peer.missing : Peer := ⟨.missing, none, []⟩

/-- How long to wait in seconds, or for ever. -/
abbrev Timeout := Option Number

/-- A socket: where it was connected to, how long it waits if that was set, and what was sent. -/
structure Socket where
  path : Option String
  timeout : Option Timeout
  sent : List UInt8
  closed : Bool
  peer : Peer
deriving Repr

/-- The sockets that were created, in order, and the peers that later ones will meet. -/
structure Network where
  sockets : List Socket
  waiting : List Peer
deriving Repr

namespace Network

def nextPeer (n : Network) : Peer := n.waiting.head?.getD .missing

def create (n : Network) (timeout : Option Timeout) : Network :=
  ⟨n.sockets ++ [⟨none, timeout, [], false, n.nextPeer⟩], n.waiting.tail⟩

def change (n : Network) (index : Nat) (f : Socket → Socket) : Network :=
  { n with sockets := n.sockets.modify index f }

end Network

/-- Why a number of bytes could not be read. -/
inductive ReceiveFault where
  | failed (reason : String)
  | ended (remaining : Nat)
deriving DecidableEq, Repr

/-- Reads a number of bytes from what a peer has, after those that were read before: the bytes or why
they end, and what the peer has left. -/
def gather (remaining : Nat) (done : List UInt8) :
    List Incoming → Except ReceiveFault (List UInt8) × List Incoming
  | [] => (if remaining == 0 then .ok done else .error (.ended remaining), [])
  | .failure reason :: rest =>
    if remaining == 0 then (.ok done, .failure reason :: rest)
    else (.error (.failed reason), rest)
  | .chunk bytes :: rest =>
    if remaining == 0 then (.ok done, .chunk bytes :: rest)
    else if bytes.isEmpty then (.error (.ended remaining), rest)
    else if bytes.length ≤ remaining then gather (remaining - bytes.length) (done ++ bytes) rest
    else (.ok (done ++ bytes.take remaining), .chunk (bytes.drop remaining) :: rest)

end SwayControl
