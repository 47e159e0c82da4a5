import SwayControl.Proofs.Ipc.Call
import SwayControl.Proofs.Success
import SwayControl.Service.Dispatch

/-!
Visits: a client connects, sends one message, reads one reply and is closed. What a visit answers and
what it leaves behind is told from the plan of the client and the peer that it meets alone. Chunks may
be cut anywhere or be empty, and any read may fail.
-/

namespace SwayControl

/-- The header and the payload of the frame that can be read next. -/
def readFrame (incoming : List Incoming) : Except IpcFault (Frame.Header × List UInt8) := do
  let (bytes, left) := gather Frame.headerSize [] incoming
  let bytes ← bytes.mapError (Exchange.receiveFault Frame.headerSize)
  let header ← (Frame.readHeader bytes).mapError .header
  let (body, _) := gather header.length [] left
  return (header, ← body.mapError (Exchange.receiveFault header.length))

/-- The data of the reply that can be read next, which must be of some type. -/
def readReply (nesting : Nat) (type : Int) (incoming : List Incoming) : Except IpcFault Datum := do
  let (header, body) ← readFrame incoming
  if type != header.type then throw (.otherType header.type type)
  (Json.read nesting body).mapError .unread

section Reading

variable {incoming : List Incoming}

/-- A frame that is read stands in front of the stream. -/
theorem readFrame_eq_ok {header : Frame.Header} {body : List UInt8}
    (h : readFrame incoming = .ok (header, body)) :
    ∃ rest, header.length = body.length ∧ body.length < Frame.wordBound ∧
      header.type < Frame.wordBound ∧
      stream incoming = Frame.headerBytes body.length header.type ++ body ++ rest := by
  unfold readFrame at h
  rcases hfirst : gather Frame.headerSize [] incoming with ⟨first, left⟩
  rw [hfirst] at h
  obtain ⟨bytes, rfl, found, hread, h⟩ := by simpa only [bind_eq_ok, mapError_eq_ok] using h
  rcases hsecond : gather found.length [] left with ⟨second, rest⟩
  rw [hsecond] at h
  obtain ⟨payload, rfl, hpair⟩ := h
  obtain ⟨rfl, rfl⟩ := Prod.mk.inj (Except.ok.inj hpair)
  obtain ⟨_, rfl, -, hstream⟩ := gather_eq_ok hfirst
  obtain ⟨_, rfl, hbody, hleft⟩ := gather_eq_ok hsecond
  obtain ⟨hlength, htype, hheader⟩ := Frame.readHeader_eq_ok_iff.mp hread
  refine ⟨stream rest, hbody.symm, hbody ▸ hlength, htype, ?_⟩
  rw [hstream, hleft, hheader, hbody, List.append_assoc]

/-- The data of a reply that is read are those of the payload of the frame in front of the stream. -/
theorem readReply_eq_ok {nesting : Nat} {type : Int} {value : Datum}
    (h : readReply nesting type incoming = .ok value) :
    ∃ body frame rest, Frame.pack type body = .ok frame ∧ stream incoming = frame ++ rest ∧
      Json.read nesting body = .ok value := by
  obtain ⟨⟨header, body⟩, hread, h⟩ := bind_eq_ok.mp h
  obtain ⟨rest, -, hsize, htype, hstream⟩ := readFrame_eq_ok hread
  by_cases hother : type != header.type
  · simp only [hother, if_true] at h
    cases h
  · simp only [hother] at h
    obtain rfl : type = header.type := by simpa using hother
    have hframe := Frame.pack_eq_ok_iff.mpr ⟨hsize, Int.natCast_nonneg _, htype, rfl⟩
    exact ⟨body, _, rest, hframe, hstream, mapError_eq_ok.mp h⟩

end Reading

namespace Peer

/-- The peer that the first socket meets. -/
def first (peers : List Peer) : Peer := Network.nextPeer ⟨[], peers⟩

/-- What a request is answered on a socket that is connected to a peer. -/
def answer (peer : Peer) (nesting : Nat) (type : Int) (payload : List UInt8) :
    Except IpcFault Datum := do
  let _ ← (Frame.pack type payload).mapError .unframable
  match peer.sendFailure with
  | some reason => throw (.transport reason)
  | none => readReply nesting type peer.incoming

/-- The bytes of a message that a peer takes: all of its frame, or none. -/
def taken (peer : Peer) (type : Int) (payload : List UInt8) : List UInt8 :=
  match Frame.pack type payload, peer.sendFailure with
  | .ok frame, none => frame
  | _, _ => []

end Peer

namespace Exchange

variable {l : Link} {i : Nat}

theorem outcome_receiveFrame (hi : i < l.network.sockets.length) :
    ∃ left events, outcome ((receiveFrame i).run l) =
      (readFrame (l.pending i), l.leave i left events) := by
  have hheader := outcome_receive l i Frame.headerSize
  unfold receiveFrame readFrame
  generalize gather Frame.headerSize [] (l.pending i) = first at hheader
  obtain ⟨fault | bytes, left⟩ := first
  · exact ⟨left, l.events, outcome_bind_error hheader _⟩
  · rw [outcome_bind_ok hheader]
    cases hread : Frame.readHeader bytes with
    | error fault =>
        refine ⟨left, l.events, ?_⟩
        simp only [Except.mapError, bind, Except.bind, hread]
        rfl
    | ok header =>
        have hbody := outcome_receive (l.leave i left l.events) i header.length
        rw [Link.pending_leave hi, Link.leave_leave] at hbody
        refine ⟨(gather header.length [] left).2, l.events, ?_⟩
        simp only [Except.mapError, bind, Except.bind, hread]
        generalize gather header.length [] left = second at hbody
        obtain ⟨fault | body, rest⟩ := second
        · exact outcome_bind_error hbody _
        · exact outcome_bind_ok hbody _

theorem outcome_collect (hi : i < l.network.sockets.length) (nesting : Nat) (type : Int)
    (size : Nat) :
    ∃ left events, outcome ((collect nesting i type size).run l) =
      (readReply nesting type (l.pending i), l.leave i left events) := by
  let noted : Link := { l with events := l.events ++ [.sent type size] }
  obtain ⟨left, events, hframe⟩ := outcome_receiveFrame (l := noted) hi
  have hcollect : outcome ((collect nesting i type size).run l) =
      outcome ((receiveFrame i >>= fun reply =>
        note (.replied reply.1.type reply.1.length) >>= fun _ =>
        if type != reply.1.type then throw (.otherType reply.1.type type)
        else ofExcept .unread (Json.read nesting reply.2)).run noted) := rfl
  have hpending : noted.pending i = l.pending i := rfl
  rw [hpending] at hframe
  rw [hcollect]
  unfold readReply
  cases hread : readFrame (l.pending i) with
  | error fault =>
      rw [hread] at hframe
      exact ⟨left, events, outcome_bind_error hframe _⟩
  | ok reply =>
      obtain ⟨header, body⟩ := reply
      rw [hread] at hframe
      refine ⟨left, events ++ [.replied header.type header.length], ?_⟩
      rw [outcome_bind_ok hframe]
      by_cases htype : type != header.type
      · simp only [htype, bind, Except.bind]
        rfl
      · simp only [htype, bind, Except.bind]
        cases Json.read nesting body <;> rfl

/-- A request on an open socket answers as its peer does, and leaves the socket with what the peer took
of the message. -/
theorem outcome_request {s : Socket} (hcurrent : l.client.current = some i)
    (hs : l.network.sockets[i]? = some s) (type : Int) (payload : List UInt8) :
    ∃ left events, outcome ((request type payload).run l) =
      (s.peer.answer l.client.nesting type payload,
        (l.deliver i (s.peer.taken type payload)).leave i left events) := by
  have hi : i < l.network.sockets.length := (List.getElem?_eq_some_iff.mp hs).1
  have hstill : (l.deliver i []).leave i (l.pending i) l.events = l := by
    rw [Link.deliver_nil, Link.leave_pending hi]
  rw [Link.run_request hcurrent hs]
  unfold Peer.answer Peer.taken
  cases Frame.pack type payload with
  | error fault =>
      refine ⟨l.pending i, l.events, ?_⟩
      rw [hstill]
      rfl
  | ok frame =>
      cases s.peer.sendFailure with
      | some reason =>
          refine ⟨l.pending i, l.events, ?_⟩
          rw [hstill]
          rfl
      | none =>
          have hdelivered : i < (l.deliver i frame).network.sockets.length := by
            simpa [Link.deliver, Network.change] using hi
          have hpending : l.pending i = s.peer.incoming := by simp [Link.pending, hs]
          obtain ⟨left, events, hcollect⟩ :=
            outcome_collect hdelivered l.client.nesting type payload.length
          rw [Link.pending_deliver, hpending] at hcollect
          exact ⟨left, events, hcollect⟩

/-- A request whose answer is read further. -/
def ask {α : Type} (type : Int) (payload : List UInt8) (read : Datum → Except IpcFault α) :
    Exchange α := do ofExcept id (read (← request type payload))

theorem outcome_ask {α : Type} {s : Socket} (hcurrent : l.client.current = some i)
    (hs : l.network.sockets[i]? = some s) (type : Int) (payload : List UInt8)
    (read : Datum → Except IpcFault α) :
    ∃ left events, outcome ((ask type payload read).run l) =
      (s.peer.answer l.client.nesting type payload >>= read,
        (l.deliver i (s.peer.taken type payload)).leave i left events) := by
  obtain ⟨left, events, hrequest⟩ := outcome_request hcurrent hs type payload
  refine ⟨left, events, ?_⟩
  unfold ask
  cases hanswer : s.peer.answer l.client.nesting type payload with
  | error fault =>
      rw [hanswer] at hrequest
      exact outcome_bind_error hrequest _
  | ok value =>
      rw [hanswer] at hrequest
      rw [outcome_bind_ok hrequest]
      simp only [bind, Except.bind]
      cases read value <;> rfl

/-- What running commands makes of the data of the reply. -/
def readOutcomeReply : Datum → Except IpcFault (List Outcome)
  | .list values => (readOutcomes values).mapError .outcomes
  | reply => .error (.notList reply.kind)

/-- What asking for the version makes of the data of the reply. -/
def readVersionReply : Datum → Except IpcFault Entries
  | .table entries => .ok entries
  | reply => .error (.notTable reply.kind)

theorem runCommand_eq_ask (text : List UInt8) :
    runCommand text = ask runCommandType text readOutcomeReply := by
  unfold runCommand ask
  congr
  funext value
  cases value with
  | list values =>
      simp only [readOutcomeReply]
      cases readOutcomes values <;> rfl
  | _ => rfl

theorem getVersion_eq_ask : getVersion = ask getVersionType [] readVersionReply := by
  unfold getVersion ask
  congr
  funext value
  cases value <;> rfl

theorem run_note (event : Event) :
    (note event).run l = .ok () { l with events := l.events ++ [event] } := rfl

theorem run_close (hcurrent : l.client.current = some i) :
    close.run l = .ok () ⟨l.network.change i fun s => { s with closed := true },
      { l.client with current := none }, l.events⟩ := by
  simp only [close, EStateM.run_bind, EStateM.run_get, hcurrent]
  rfl

theorem run_tryCatch {α : Type} (x : Exchange α) (handle : IpcFault → Exchange α) :
    (tryCatch x handle).run l =
      match x.run l with
      | .ok a s => .ok a s
      | .error fault s => (handle fault).run s := by
  simp only [EStateM.run, tryCatch, tryCatchThe, MonadExceptOf.tryCatch, EStateM.tryCatch]
  cases x l <;> rfl

/-- The link in which a client connects. -/
def entered (l : Link) : Link := { l with events := l.events ++ [.clientCreated l.client.path] }

/-- An exchange within a client that connects is answered alike, and its socket is closed behind it. -/
theorem outcome_within {α : Type} {exchange : Exchange α} {opened after : Link}
    {result : Except IpcFault α} (hconnect : connect.run (entered l) = .ok () opened)
    (hexchange : outcome (exchange.run opened) = (result, after))
    (hcurrent : after.client.current = some i) :
    outcome (exchange.within.run l) =
      (result, ⟨after.network.change i fun s => { s with closed := true },
        { after.client with current := none }, after.events⟩) := by
  have hclose := run_close hcurrent
  unfold entered at hconnect
  simp only [within, EStateM.run_bind, EStateM.run_get, run_note, hconnect, run_tryCatch]
  cases result with
  | ok a =>
      simp only [run_of_outcome_ok hexchange, hclose]
      rfl
  | error fault =>
      simp only [run_of_outcome_error hexchange, hclose]
      rfl

/-- Nothing is exchanged within a client that does not connect. -/
theorem outcome_within_unconnected {α : Type} {exchange : Exchange α} {after : Link}
    {fault : IpcFault} (hconnect : connect.run (entered l) = .error fault after) :
    outcome (exchange.within.run l) = (.error fault, after) := by
  unfold entered at hconnect
  simp only [within, EStateM.run_bind, EStateM.run_get, run_note, hconnect]
  rfl

end Exchange

namespace ClientPlan

/-- Whether a client has nothing to connect to. -/
def isStranded (plan : ClientPlan) : Bool := !plan.preconnected && plan.path.all String.isEmpty

/-- How connecting to a peer ends. A socket that is given is connected already. -/
def reach (plan : ClientPlan) (peer : Peer) : Except IpcFault Unit :=
  if plan.isStranded then .error .noPath
  else if plan.preconnected then .ok ()
  else
    match peer.connecting with
    | .accepted => .ok ()
    | .missing => .error (.notFound plan.path)
    | .refused reason => .error (.cannotConnect plan.path reason)

/-- The socket of a client when it is connected. -/
def socket (plan : ClientPlan) (peer : Peer) : Socket :=
  ⟨if plan.preconnected then none else plan.path, some plan.timeout, [], false, peer⟩

/-- The socket of a client after a visit: closed, with what was sent on it and what is left unread. -/
def leftBehind (plan : ClientPlan) (peer : Peer) (sent : List UInt8) (unread : List Incoming) :
    Socket :=
  { plan.socket peer with sent, closed := true, peer := { peer with incoming := unread } }

/-- The bytes that a visit sends. -/
def sends (plan : ClientPlan) (peer : Peer) (type : Int) (payload : List UInt8) : List UInt8 :=
  match plan.reach peer with
  | .ok _ => peer.taken type payload
  | .error _ => []

/-- The sockets that there are after a visit: one, or none if there was nothing to connect to. -/
def remains (plan : ClientPlan) (peer : Peer) (type : Int) (payload : List UInt8)
    (unread : List Incoming) : List Socket :=
  if plan.isStranded then [] else [plan.leftBehind peer (plan.sends peer type payload) unread]

variable {α : Type}

theorem serve_of_outcome {plan : ClientPlan} {peers : List Peer} {exchange : Exchange α}
    {link after : Link} {result : Except IpcFault α} (hlink : plan.link peers = .ok link)
    (h : outcome (exchange.within.run link) = (result, after)) :
    plan.serve peers exchange = (result, after.network.sockets, after.events) := by
  unfold serve
  rw [hlink]
  cases result with
  | ok a => simp only [run_of_outcome_ok h]
  | error fault => simp only [run_of_outcome_error h]

/-- How the connecting of a client ends that has a path and no socket yet. -/
theorem run_connect_start {plan : ClientPlan} (hfresh : plan.preconnected = false)
    (hpath : plan.path.all String.isEmpty = false) (peers : List Peer) :
    Exchange.connect.run (Exchange.entered ⟨⟨[], peers⟩, plan.client none, []⟩) =
      match plan.reach (Peer.first peers) with
      | .ok _ => .ok () ⟨⟨[plan.socket (Peer.first peers)], peers.tail⟩, plan.client (some 0),
          [.clientCreated plan.path, .connected plan.path]⟩
      | .error fault => .error fault
          ⟨⟨[{ plan.socket (Peer.first peers) with closed := true }], peers.tail⟩, plan.client none,
            [.clientCreated plan.path]⟩ := by
  have hcreated : Exchange.createSocket.run (Exchange.entered ⟨⟨[], peers⟩, plan.client none, []⟩) =
      .ok (0, Peer.first peers)
        ⟨⟨[⟨none, some plan.timeout, [], false, Peer.first peers⟩], peers.tail⟩, plan.client none,
          [.clientCreated plan.path]⟩ := rfl
  have hcurrent : (Exchange.entered ⟨⟨[], peers⟩, plan.client none, []⟩).client.current = none := rfl
  simp only [Exchange.connect, EStateM.run_bind, EStateM.run_get, hcurrent, hcreated, reach, socket,
    isStranded, hfresh, hpath]
  cases (Peer.first peers).connecting <;> rfl

/-- A visit of a client that connects is answered by the peer. -/
theorem serve_connected {plan : ClientPlan} {peers : List Peer} {link opened : Link}
    (hlink : plan.link peers = .ok link)
    (hconnect : Exchange.connect.run (Exchange.entered link) = .ok () opened)
    (hcurrent : opened.client.current = some 0) (hnesting : opened.client.nesting = plan.nesting)
    (hsockets : opened.network.sockets = [plan.socket (Peer.first peers)]) (type : Int)
    (payload : List UInt8) (read : Datum → Except IpcFault α) :
    ∃ unread events, plan.serve peers (Exchange.ask type payload read) =
      ((Peer.first peers).answer plan.nesting type payload >>= read,
        [plan.leftBehind (Peer.first peers) ((Peer.first peers).taken type payload) unread],
        events) := by
  have hsocket : opened.network.sockets[0]? = some (plan.socket (Peer.first peers)) := by
    rw [hsockets]
    rfl
  obtain ⟨unread, events, hask⟩ := Exchange.outcome_ask hcurrent hsocket type payload read
  refine ⟨unread, events, ?_⟩
  rw [serve_of_outcome hlink (Exchange.outcome_within hconnect hask hcurrent), hnesting]
  simp only [Link.leave, Link.deliver, Network.change, hsockets]
  rfl

/-- A visit of a client that does not connect sends nothing. -/
theorem serve_unconnected {plan : ClientPlan} {peers : List Peer} {link after : Link}
    {fault : IpcFault} (hlink : plan.link peers = .ok link)
    (hconnect : Exchange.connect.run (Exchange.entered link) = .error fault after)
    (exchange : Exchange α) :
    plan.serve peers exchange = (.error fault, after.network.sockets, after.events) :=
  serve_of_outcome hlink (Exchange.outcome_within_unconnected hconnect)

/-- What a visit answers and leaves behind. -/
theorem serve_ask (plan : ClientPlan) (peers : List Peer) (type : Int) (payload : List UInt8)
    (read : Datum → Except IpcFault α) :
    ∃ unread events, plan.serve peers (Exchange.ask type payload read) =
      (plan.reach (Peer.first peers) >>= fun _ =>
          (Peer.first peers).answer plan.nesting type payload >>= read,
        plan.remains (Peer.first peers) type payload unread, events) := by
  cases hgiven : plan.preconnected with
  | true =>
      obtain ⟨path, timeout, _, nesting⟩ := plan
      obtain rfl : _ = true := hgiven
      exact serve_connected rfl rfl rfl rfl rfl type payload read
  | false =>
      cases hpath : plan.path.all String.isEmpty with
      | true =>
          refine ⟨[], [], ?_⟩
          simp [serve, link, remains, isStranded, reach, hgiven, hpath]
          rfl
      | false =>
          have hlink : plan.link peers = .ok ⟨⟨[], peers⟩, plan.client none, []⟩ := by
            simp [link, hgiven, hpath]
          have hstranded : plan.isStranded = false := by simp [isStranded, hgiven, hpath]
          have hconnect := run_connect_start hgiven hpath peers
          unfold remains sends
          rw [hstranded]
          cases hreach : plan.reach (Peer.first peers) with
          | ok _ =>
              rw [hreach] at hconnect
              exact serve_connected hlink hconnect rfl rfl rfl type payload read
          | error fault =>
              rw [hreach] at hconnect
              exact ⟨(Peer.first peers).incoming, _, serve_unconnected hlink hconnect _⟩

end ClientPlan

end SwayControl
