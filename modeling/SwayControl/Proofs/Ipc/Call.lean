import SwayControl.Proofs.Ipc.Decoding

/-!
Calls on a client that is connected. A call sends its message and reads its reply; what it answers and
what it leaves in the stream are those of a decoding, unless a read fails. Calls are made one after
another on the same connection, failed ones included.
-/

namespace SwayControl

/-- What a client can be asked for. -/
inductive Call where
  | request (type : Int) (payload : List UInt8)
  | runCommand (text : List UInt8)
  | getVersion

/-- What a call gives. -/
inductive Response where
  | data (value : Datum)
  | outcomes (outcomes : List Outcome)
  | version (entries : Entries)

namespace Call

/-- The type of the message of a call. -/
def type : Call → Int
  | .request type _ => type
  | .runCommand _ => runCommandType
  | .getVersion => getVersionType

/-- The payload of the message of a call. -/
def payload : Call → List UInt8
  | .request _ payload => payload
  | .runCommand text => text
  | .getVersion => []

/-- The bytes that a call sends: none if its message cannot be framed. -/
def message (c : Call) : List UInt8 :=
  match Frame.pack c.type c.payload with
  | .ok frame => frame
  | .error _ => []

/-- A call as it is made. -/
def perform : Call → Exchange Response
  | .request type payload => .data <$> Exchange.request type payload
  | .runCommand text => .outcomes <$> Exchange.runCommand text
  | .getVersion => .version <$> Exchange.getVersion

/-- What a call makes of the data of its reply. -/
def read : Call → Datum → Except IpcFault Response
  | .request .., value => .ok (.data value)
  | .runCommand _, .list values => ((readOutcomes values).mapError .outcomes).map .outcomes
  | .runCommand _, value => .error (.notList value.kind)
  | .getVersion, .table entries => .ok (.version entries)
  | .getVersion, value => .error (.notTable value.kind)

/-- What a call answers to the payload of its reply. One that nests deeper than the client's reader goes
is answered by the fault that says so. -/
def decode (c : Call) (nesting : Nat) (body : List UInt8) : Except IpcFault Response :=
  ((Json.read nesting body).mapError .unread).bind c.read

/-- What a call answers to a stream of bytes, and the bytes it leaves. -/
def decoding (c : Call) (nesting : Nat) : Decoding Response := do
  let _ ← Decoding.ofExcept .unframable (Frame.pack c.type c.payload)
  let value ← Decoding.reply nesting c.type
  Decoding.ofExcept id (c.read value)

theorem perform_eq (c : Call) :
    c.perform = Exchange.request c.type c.payload >>= fun value =>
      Exchange.ofExcept id (c.read value) := by
  cases c with
  | request type payload => exact map_eq_pure_bind ..
  | runCommand text =>
      simp only [perform, Exchange.runCommand, map_eq_pure_bind, bind_assoc]
      congr
      funext value
      cases value with
      | list values =>
          simp only [read]
          cases readOutcomes values <;> rfl
      | _ => rfl
  | getVersion =>
      simp only [perform, Exchange.getVersion, map_eq_pure_bind, bind_assoc]
      congr
      funext value
      cases value <;> rfl

end Call

namespace Exchange

variable {i : Nat}

/-- What a request does once its message is sent. -/
def collect (nesting i : Nat) (type : Int) (size : Nat) : Exchange Datum := do
  note (.sent type size)
  let (header, body) ← receiveFrame i
  note (.replied header.type header.length)
  if type != header.type then throw (.otherType header.type type)
  ofExcept .unread (Json.read nesting body)

/-- A request keeps to the nesting that its client has when it begins. -/
theorem run_request_eq (l : Link) (type : Int) (payload : List UInt8) :
    (request type payload).run l =
      (openSocket >>= fun index =>
        ofExcept .unframable (Frame.pack type payload) >>= fun frame =>
        send index frame >>= fun _ =>
        collect l.client.nesting index type payload.length).run l := rfl

theorem follows_receiveFrame : Follows i (receiveFrame i) Decoding.frame := by
  apply (follows_receive _).bind
  intro bytes
  apply (follows_ofExcept _ _).bind
  intro header
  apply (follows_receive _).bind
  intro body
  exact follows_pure _

theorem Follows.noting {α : Type} {x : Exchange α} {d : Decoding α} (h : Follows i x d)
    (event : Event) : Follows i (note event >>= fun _ => x) d := by
  have hboth := (follows_note event).bind fun _ => h
  rwa [pure_bind] at hboth

theorem follows_collect (nesting : Nat) (type : Int) (size : Nat) :
    Follows i (collect nesting i type size) (Decoding.reply nesting type) := by
  apply Follows.noting
  apply follows_receiveFrame.bind
  rintro ⟨header, body⟩
  apply Follows.noting
  by_cases htype : type != header.type
  · simp only [htype, if_true]
    exact follows_throw _
  · simp only [htype]
    exact follows_ofExcept _ _

end Exchange

namespace Link

variable {l : Link} {i : Nat}

/-- Makes a call: its answer and the link after it. -/
def answer (l : Link) (c : Call) : Except IpcFault Response × Link := outcome (c.perform.run l)

/-- Makes calls one after another, whether they fail or not: their answers and the link after them. -/
def answers (l : Link) : List Call → List (Except IpcFault Response) × Link
  | [] => ([], l)
  | c :: rest => ((l.answer c).1 :: ((l.answer c).2.answers rest).1, ((l.answer c).2.answers rest).2)

/-- The bytes that were sent on each socket. -/
def sent (l : Link) : List (List UInt8) := l.network.sockets.map Socket.sent

/-- The bytes that a socket has to be read. -/
def unread (l : Link) (i : Nat) : List UInt8 := stream (l.pending i)

/-- A link with more bytes sent on a socket. -/
def deliver (l : Link) (i : Nat) (bytes : List UInt8) : Link :=
  { l with network := l.network.change i fun s => { s with sent := s.sent ++ bytes } }

/-- A link whose client has an open socket that takes what is sent and that no empty chunk ends. -/
structure Connected (l : Link) (i : Nat) : Prop where
  current : l.client.current = some i
  socket : ∃ s, l.network.sockets[i]? = some s ∧ s.peer.sendFailure = none
  unbroken : Unbroken (l.pending i)

theorem length_answers (l : Link) (calls : List Call) :
    (l.answers calls).1.length = calls.length := by
  induction calls generalizing l with
  | nil => rfl
  | cons c rest ih => simp only [answers, List.length_cons, ih]

theorem deliver_nil : l.deliver i [] = l := by
  have hsame : l.network.sockets.modify i (fun s => { s with sent := s.sent ++ [] }) =
      l.network.sockets := by
    simp only [List.append_nil]
    exact List.modify_id _ _
  simp only [deliver, Network.change, hsame]

theorem pending_deliver (bytes : List UInt8) : (l.deliver i bytes).pending i = l.pending i := by
  simp only [pending, deliver, Network.change, List.getElem?_modify_eq]
  cases l.network.sockets[i]? <;> rfl

theorem sent_deliver (bytes : List UInt8) :
    (l.deliver i bytes).sent = l.sent.modify i (· ++ bytes) := by
  apply List.ext_getElem?
  intro j
  simp only [sent, deliver, Network.change, List.getElem?_map, List.getElem?_modify]
  by_cases hij : i = j <;> cases l.network.sockets[j]? <;> simp [hij]

theorem sent_leave (left : List Incoming) (events : List Event) :
    (l.leave i left events).sent = l.sent := by
  apply List.ext_getElem?
  intro j
  simp only [sent, leave, Network.change, List.getElem?_map, List.getElem?_modify]
  by_cases hij : i = j <;> cases l.network.sockets[j]? <;> simp [hij]

theorem Connected.lt (h : l.Connected i) : i < l.network.sockets.length := by
  obtain ⟨s, hs, -⟩ := h.socket
  exact (List.getElem?_eq_some_iff.mp hs).1

theorem Connected.deliver (h : l.Connected i) (bytes : List UInt8) :
    (l.deliver i bytes).Connected i where
  current := h.current
  socket := by
    obtain ⟨s, hs, hsend⟩ := h.socket
    refine ⟨{ s with sent := s.sent ++ bytes }, ?_, hsend⟩
    simp [Link.deliver, Network.change, hs]
  unbroken := by rw [pending_deliver]; exact h.unbroken

theorem Connected.leave (h : l.Connected i) {left : List Incoming} (hleft : Unbroken left)
    (events : List Event) : (l.leave i left events).Connected i where
  current := h.current
  socket := by
    obtain ⟨s, hs, hsend⟩ := h.socket
    refine ⟨{ s with peer := { s.peer with incoming := left } }, ?_, hsend⟩
    simp [Link.leave, Network.change, hs]
  unbroken := by rw [pending_leave h.lt]; exact hleft

/-- A request on an open socket sends its message in a frame and then reads the reply. Without a frame,
or where sending fails, nothing has happened. -/
theorem run_request {s : Socket} (hcurrent : l.client.current = some i)
    (hs : l.network.sockets[i]? = some s) (type : Int) (payload : List UInt8) :
    (Exchange.request type payload).run l =
      match Frame.pack type payload, s.peer.sendFailure with
      | .error fault, _ => .error (.unframable fault) l
      | .ok _, some reason => .error (.transport reason) l
      | .ok frame, none =>
        (Exchange.collect l.client.nesting i type payload.length).run (l.deliver i frame) := by
  have hopen : Exchange.openSocket.run l = .ok i l := by
    simp [Exchange.openSocket, EStateM.run_bind, hcurrent]
  rw [Exchange.run_request_eq, EStateM.run_bind, hopen]
  cases Frame.pack type payload with
  | error fault => rfl
  | ok frame =>
      simp only [Exchange.ofExcept, pure_bind, EStateM.run_bind]
      cases hsend : s.peer.sendFailure with
      | some reason =>
          have hfails : (Exchange.send i frame).run l = .error (.transport reason) l := by
            simp [Exchange.send, EStateM.run_bind, hs, hsend]
          rw [hfails]
      | none =>
          have hsent : (Exchange.send i frame).run l = .ok () (l.deliver i frame) := by
            simp [Exchange.send, EStateM.run_bind, hs, hsend]
            rfl
          rw [hsent]

theorem Connected.run_request (h : l.Connected i) (type : Int) (payload : List UInt8) :
    (Exchange.request type payload).run l =
      match Frame.pack type payload with
      | .ok frame =>
        (Exchange.collect l.client.nesting i type payload.length).run (l.deliver i frame)
      | .error fault => .error (.unframable fault) l := by
  obtain ⟨s, hs, hsend⟩ := h.socket
  rw [Link.run_request h.current hs, hsend]
  cases Frame.pack type payload <;> rfl

/-- A call on an open socket delivers its message and then follows its decoding. -/
theorem Connected.tracks_answer (h : l.Connected i) (c : Call) :
    (l.deliver i c.message).Tracks i (outcome ((c.decoding l.client.nesting).run (l.unread i)))
      (l.answer c) := by
  rw [answer, Call.perform_eq, EStateM.run_bind, h.run_request]
  cases hpack : Frame.pack c.type c.payload with
  | error fault =>
      have hmessage : c.message = [] := by simp only [Call.message, hpack]
      have hdecoding : outcome ((c.decoding l.client.nesting).run (l.unread i)) =
          (.error (.unframable fault), l.unread i) := by
        simp only [Call.decoding, hpack]
        rfl
      rw [hmessage, deliver_nil, hdecoding]
      exact Tracks.still h.lt h.unbroken (.error (.unframable fault)) l.events
  | ok frame =>
      have hmessage : c.message = frame := by simp only [Call.message, hpack]
      have hdecoding : c.decoding l.client.nesting =
          Decoding.reply l.client.nesting c.type >>= fun value =>
            Decoding.ofExcept id (c.read value) := by
        simp only [Call.decoding, hpack, Decoding.ofExcept, pure_bind]
      -- sending is done when the reply is read, and has left the stream as it was
      have hfollows : Exchange.Follows i _ _ :=
        (Exchange.follows_collect l.client.nesting c.type c.payload.length).bind fun value =>
          Exchange.follows_ofExcept id (c.read value)
      have hdelivered := h.deliver frame
      have htracks := hfollows.tracks (l.deliver i frame) hdelivered.lt hdelivered.unbroken
      rw [pending_deliver, EStateM.run_bind] at htracks
      rw [hmessage, hdecoding]
      exact htracks

theorem Tracks.connected {α : Type} {planned : Except IpcFault α × List UInt8}
    {actual : Except IpcFault α × Link} (hl : l.Connected i) (h : l.Tracks i planned actual) :
    actual.2.Connected i := by
  cases h with
  | alike _ hleft => exact hl.leave hleft _
  | cut _ _ _ _ _ _ hleft => exact hl.leave hleft _

theorem Tracks.sent_eq {α : Type} {planned : Except IpcFault α × List UInt8}
    {actual : Except IpcFault α × Link} (h : l.Tracks i planned actual) : actual.2.sent = l.sent := by
  cases h with
  | alike => exact sent_leave _ _
  | cut => exact sent_leave _ _

theorem Tracks.client_eq {α : Type} {planned : Except IpcFault α × List UInt8}
    {actual : Except IpcFault α × Link} (h : l.Tracks i planned actual) :
    actual.2.client = l.client := by
  cases h with
  | alike => rfl
  | cut => rfl

/-- A connected link stays connected, whatever a call answers. -/
theorem Connected.answer (h : l.Connected i) (c : Call) : (l.answer c).2.Connected i :=
  (h.tracks_answer c).connected (h.deliver c.message)

/-- A call on an open socket leaves its client as it was. -/
theorem Connected.client_answer (h : l.Connected i) (c : Call) :
    (l.answer c).2.client = l.client :=
  (h.tracks_answer c).client_eq

/-- What a call sends does not depend on what there is to be read. -/
theorem Connected.sent_answer (h : l.Connected i) (c : Call) :
    (l.answer c).2.sent = l.sent.modify i (· ++ c.message) := by
  rw [(h.tracks_answer c).sent_eq, sent_deliver]

theorem Connected.answers (h : l.Connected i) (calls : List Call) :
    (l.answers calls).2.Connected i := by
  induction calls generalizing l with
  | nil => exact h
  | cons c rest ih => exact ih (h.answer c)

theorem Connected.client_answers (h : l.Connected i) (calls : List Call) :
    (l.answers calls).2.client = l.client := by
  induction calls generalizing l with
  | nil => rfl
  | cons c rest ih => exact (ih (h.answer c)).trans (h.client_answer c)

theorem Connected.sent_answers (h : l.Connected i) (calls : List Call) :
    (l.answers calls).2.sent = l.sent.modify i (· ++ calls.flatMap Call.message) := by
  induction calls generalizing l with
  | nil =>
      simp only [Link.answers, List.flatMap_nil, List.append_nil]
      exact (List.modify_id _ _).symm
  | cons c rest ih =>
      rw [Link.answers, ih (h.answer c), h.sent_answer, List.modify_modify_eq]
      simp only [List.flatMap_cons, Function.comp_def, List.append_assoc]

end Link

/-- A call, and the payload of the reply to it. -/
structure Turn where
  call : Call
  body : List UInt8

namespace Turn

/-- The bytes with which a peer answers the message of a turn: one frame of the same type. A call that
cannot be framed sends nothing, and nothing answers it. -/
def Replied (t : Turn) (bytes : List UInt8) : Prop :=
  match Frame.pack t.call.type t.call.payload with
  | .ok _ => Frame.pack t.call.type t.body = .ok bytes
  | .error _ => bytes = []

/-- What the call of a turn answers to its own reply. -/
def result (nesting : Nat) (t : Turn) : Except IpcFault Response :=
  match Frame.pack t.call.type t.call.payload with
  | .ok _ => t.call.decode nesting t.body
  | .error fault => .error (.unframable fault)

/-- A call that has its own reply in front answers to it and leaves what is behind. -/
theorem Replied.decoding {t : Turn} {bytes : List UInt8} (h : t.Replied bytes) (nesting : Nat)
    (rest : List UInt8) :
    outcome ((t.call.decoding nesting).run (bytes ++ rest)) = (t.result nesting, rest) := by
  unfold Replied at h
  unfold result Call.decoding
  split at h
  · rename_i hpack
    have hreply := Decoding.reply_append h nesting rest
    simp only [hpack, Decoding.ofExcept, pure_bind, Call.decode]
    cases hbody : Json.read nesting t.body with
    | error fault =>
        rw [hbody] at hreply
        exact outcome_bind_error hreply _
    | ok value =>
        rw [hbody] at hreply
        rw [outcome_bind_ok hreply]
        simp only [Except.mapError, Except.bind]
        cases t.call.read value <;> rfl
  · rename_i hpack
    subst h
    simp only [hpack]
    rfl

/-- A call whose message can be framed is answered by any frame of its type. -/
theorem replied_of_pack {t : Turn} {frame : List UInt8}
    (hpayload : t.call.payload.length < Frame.wordBound)
    (h : Frame.pack t.call.type t.body = .ok frame) :
    t.Replied frame ∧ ∀ nesting, t.result nesting = t.call.decode nesting t.body := by
  obtain ⟨-, hpos, htype, -⟩ := Frame.pack_eq_ok_iff.mp h
  have hmessage := Frame.pack_eq_ok_iff.mpr ⟨hpayload, hpos, htype, rfl⟩
  simp only [Replied, result, hmessage]
  exact ⟨h, fun _ => trivial⟩

end Turn

end SwayControl
