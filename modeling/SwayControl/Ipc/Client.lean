import SwayControl.Log.Event

/-!
Clients of the window manager. A client has a path to connect to, or was given a socket that is
connected already, and keeps at most one socket open. A request connects if need be, sends one frame
and reads one; after a fault the socket stays open until the client is closed. How deep a reply may nest
for its reader is a number of the client's.
-/

namespace SwayControl

def runCommandType : Nat := 0

def getVersionType : Nat := 7

/-- A client, the index of its open socket if it has one, and how deep its replies may nest. -/
structure Client where
  path : Option String
  timeout : Timeout
  current : Option Nat
  nesting : Nat

/-- A client with the network around it and what was noted so far. -/
structure Link where
  network : Network
  client : Client
  events : List Event

/-- How a client is to be made. -/
structure ClientPlan where
  path : Option String
  timeout : Timeout
  preconnected : Bool
  nesting : Nat

/-- Operations of a client. A fault leaves everything as it was when the fault came. -/
abbrev Exchange := EStateM IpcFault Link

/-- A client as it was planned, with a socket or without one. -/
def ClientPlan.client (plan : ClientPlan) (current : Option Nat) : Client :=
  ⟨plan.path, plan.timeout, current, plan.nesting⟩

/-- A client around the first socket of a network, or one that will connect to its path. -/
def ClientPlan.link (plan : ClientPlan) (waiting : List Peer) : Except IpcFault Link :=
  if plan.preconnected then .ok ⟨Network.create ⟨[], waiting⟩ none, plan.client (some 0), []⟩
  else if plan.path.all String.isEmpty then .error .noPath
  else .ok ⟨⟨[], waiting⟩, plan.client none, []⟩

namespace Exchange

def note (event : Event) : Exchange Unit :=
  modify fun l => { l with events := l.events ++ [event] }

def changeSocket (index : Nat) (f : Socket → Socket) : Exchange Unit :=
  modify fun l => { l with network := l.network.change index f }

/-- Makes a socket the open one of the client, or leaves it without one. -/
def setCurrent (current : Option Nat) : Exchange Unit :=
  modify fun l => { l with client := { l.client with current } }

/-- A new socket that waits as long as the client does, and the peer it meets. -/
def createSocket : Exchange (Nat × Peer) := do
  let l ← get
  set { l with network := l.network.create (some l.client.timeout) }
  return (l.network.sockets.length, l.network.nextPeer)

/-- Closes a new socket and reports why it is not connected. -/
def abandon {α : Type} (index : Nat) (fault : IpcFault) : Exchange α := do
  changeSocket index fun s => { s with closed := true }
  throw fault

/-- Opens a socket if none is open. On an open one the time to wait is set again. A socket takes any time
to wait, also one below zero or one that is no number. -/
def connect : Exchange Unit := do
  let client := (← get).client
  match client.current with
  | some index => changeSocket index fun s => { s with timeout := some client.timeout }
  | none =>
    let (index, peer) ← createSocket
    changeSocket index fun s => { s with path := client.path }
    -- The client has the socket only once the peer has accepted; otherwise it is closed at once.
    match peer.connecting with
    | .missing => abandon index (.notFound client.path)
    | .refused reason => abandon index (.cannotConnect client.path reason)
    | .accepted =>
      note (.connected client.path)
      setCurrent (some index)

def close : Exchange Unit := do
  match (← get).client.current with
  | none => return
  | some index =>
    changeSocket index fun s => { s with closed := true }
    setCurrent none

/-- Sends bytes on a socket: all of them, or none where that fails. -/
def send (index : Nat) (bytes : List UInt8) : Exchange Unit := do
  match ((← get).network.sockets[index]?).bind fun s => s.peer.sendFailure with
  | some reason => throw (.transport reason)
  | none => changeSocket index fun s => { s with sent := s.sent ++ bytes }

/-- Reads exactly a number of bytes from a socket. -/
def receive (index size : Nat) : Exchange (List UInt8) := do
  let incoming := ((← get).network.sockets[index]?).elim [] fun s => s.peer.incoming
  let (bytes, left) := gather size [] incoming
  -- What was read is gone from the peer also where it was too little.
  changeSocket index fun s => { s with peer := { s.peer with incoming := left } }
  match bytes with
  | .ok bytes => return bytes
  | .error (.failed reason) => throw (.transport reason)
  | .error (.ended remaining) => throw (.ended remaining size)

/-- An outcome of pure work, with its faults as faults of the exchange. -/
def ofExcept {ε α : Type} (fault : ε → IpcFault) : Except ε α → Exchange α
  | .ok a => return a
  | .error e => throw (fault e)

/-- The open socket of the client, which connects if need be. -/
def openSocket : Exchange Nat := do
  match (← get).client.current with
  | some index => return index
  | none =>
    connect
    match (← get).client.current with
    | some index => return index
    | none => throw .noPath

def receiveFrame (index : Nat) : Exchange (Frame.Header × List UInt8) := do
  let bytes ← receive index Frame.headerSize
  let header ← ofExcept .header (Frame.readHeader bytes)
  return (header, ← receive index header.length)

/-- Sends one message and reads the reply, which must be of the same type and hold JSON. -/
def request (type : Int) (payload : List UInt8) : Exchange Datum := do
  let nesting := (← get).client.nesting
  let index ← openSocket
  let frame ← ofExcept .unframable (Frame.pack type payload)
  send index frame
  note (.sent type payload.length)
  let (header, body) ← receiveFrame index
  note (.replied header.type header.length)
  -- By now the whole reply is read, so one of another type does not stay behind.
  if type != header.type then throw (.otherType header.type type)
  ofExcept .unread (Json.read nesting body)

def runCommand (text : List UInt8) : Exchange (List Outcome) := do
  match ← request runCommandType text with
  | .list values => ofExcept .outcomes (readOutcomes values)
  | reply => throw (.notList reply.kind)

def getVersion : Exchange Entries := do
  match ← request getVersionType [] with
  | .table entries => return entries
  | reply => throw (.notTable reply.kind)

end Exchange

end SwayControl
