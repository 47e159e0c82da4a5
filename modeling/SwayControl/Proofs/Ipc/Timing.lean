import SwayControl.Proofs.Ipc.Connection
import SwayControl.Config.Settings

/-!
Exchanges and how long their sockets wait. A client sets the time to wait of a socket when it creates
it, and again when it connects with one that is open. A use of a client keeps to timed sockets if it
would go just the same whatever came of sending or reading on any other.
-/

namespace SwayControl

/-- How long a socket waits was set, to what its client says. -/
def Link.Timed (l : Link) (i : Nat) : Prop :=
  l.network.sockets[i]?.map Socket.timeout = some (some l.client.timeout)

/-- Ways to send bytes on a socket and to read a number of bytes from it. -/
structure Contact where
  send : Nat → List UInt8 → Exchange Unit
  receive : Nat → Nat → Exchange (List UInt8)

namespace Contact

/-- The contact that clients make. -/
def usual : Contact := ⟨Exchange.send, Exchange.receive⟩

/-- A contact that is the usual one on timed sockets. On others it may do anything. -/
def UsualOnTimed (k : Contact) : Prop :=
  ∀ (l : Link) (i : Nat), l.Timed i →
    (∀ bytes, (k.send i bytes).run l = (Exchange.send i bytes).run l) ∧
    ∀ size, (k.receive i size).run l = (Exchange.receive i size).run l

/-- What a request does on its socket. -/
def converse (k : Contact) (nesting : Nat) (type : Int) (payload : List UInt8) (i : Nat) :
    Exchange Datum := do
  let frame ← Exchange.ofExcept .unframable (Frame.pack type payload)
  k.send i frame
  Exchange.note (.sent type payload.length)
  let bytes ← k.receive i Frame.headerSize
  let header ← Exchange.ofExcept .header (Frame.readHeader bytes)
  let body ← k.receive i header.length
  Exchange.note (.replied header.type header.length)
  if type != header.type then throw (.otherType header.type type)
  Exchange.ofExcept .unread (Json.read nesting body)

/-- A request through a contact. -/
def request (k : Contact) (type : Int) (payload : List UInt8) : Exchange Datum := do
  let nesting := (← get).client.nesting
  k.converse nesting type payload (← Exchange.openSocket)

/-- A use through a contact. -/
def perform (k : Contact) : Use → Exchange (Option Response)
  | .call c => some <$> do Exchange.ofExcept id (c.read (← k.request c.type c.payload))
  | u => u.perform

theorem run_request (k : Contact) (type : Int) (payload : List UInt8) (l : Link) :
    (k.request type payload).run l =
      (Exchange.openSocket >>= k.converse l.client.nesting type payload).run l := rfl

theorem request_usual (type : Int) (payload : List UInt8) :
    usual.request type payload = Exchange.request type payload := by
  simp only [request, converse, Exchange.request, Exchange.receiveFrame, bind_assoc, pure_bind, usual]

theorem perform_usual (u : Use) : usual.perform u = u.perform := by
  cases u with
  | call c => simp only [perform, Use.perform, request_usual, Call.perform_eq]
  | _ => rfl

end Contact

/-- A use that sends and reads on timed sockets alone: no contact that is the usual one there makes it
go another way. -/
def Link.KeepsToTimed (l : Link) (u : Use) : Prop :=
  ∀ k : Contact, k.UsualOnTimed → outcome ((k.perform u).run l) = l.use u

/-- Whether a use is a call. -/
def Use.isCall : Use → Bool
  | .call _ => true
  | _ => false

namespace Exchange

variable {α β : Type} {i : Nat}

/-- Two exchanges that go alike wherever a socket is timed, and leave it timed. -/
def Alike (i : Nat) (x y : Exchange α) : Prop :=
  ∀ l : Link, l.Timed i → x.run l = y.run l ∧ ∀ a l', y.run l = .ok a l' → l'.Timed i

theorem Alike.bind {x y : Exchange α} {f g : α → Exchange β} (hxy : Alike i x y)
    (hfg : ∀ a, Alike i (f a) (g a)) : Alike i (x >>= f) (y >>= g) := by
  intro l hl
  obtain ⟨hsame, hleft⟩ := hxy l hl
  rw [EStateM.run_bind, EStateM.run_bind, hsame]
  cases hy : y.run l with
  | error fault l' =>
      refine ⟨rfl, fun a l'' h => ?_⟩
      cases h
  | ok a l' => exact hfg a l' (hleft a l' hy)

theorem alike_ofExcept {ε : Type} (fault : ε → IpcFault) (work : Except ε α) :
    Alike i (ofExcept fault work) (ofExcept fault work) := by
  intro l hl
  refine ⟨rfl, fun a l' h => ?_⟩
  cases work with
  | error e => cases h
  | ok b =>
      cases h
      exact hl

theorem alike_note (event : Event) : Alike i (note event) (note event) := by
  intro l hl
  refine ⟨rfl, fun a l' h => ?_⟩
  cases h
  exact hl

theorem alike_throw (fault : IpcFault) :
    Alike i (throw fault : Exchange α) (throw fault : Exchange α) := by
  intro l hl
  refine ⟨rfl, fun a l' h => ?_⟩
  cases h

end Exchange

namespace Link

variable {l : Link} {i : Nat}

/-- What leaves the time to wait of each socket as it is leaves it so on every one. -/
theorem timeout_change (n : Network) (f : Socket → Socket) (hf : ∀ s, (f s).timeout = s.timeout)
    (j : Nat) : (n.change i f).sockets[j]?.map Socket.timeout = n.sockets[j]?.map Socket.timeout := by
  have hkeeps : Socket.timeout ∘ (fun s => if i = j then f s else s) = Socket.timeout := by
    funext s
    by_cases hij : i = j <;> simp [hij, hf]
  simp only [Network.change, List.getElem?_modify, Option.map_eq_map, Option.map_map, hkeeps]

theorem Timed.change (h : l.Timed i) (j : Nat) (f : Socket → Socket)
    (hf : ∀ s, (f s).timeout = s.timeout) (events : List Event) :
    Timed ⟨l.network.change j f, l.client, events⟩ i :=
  (timeout_change l.network f hf i).trans h

theorem timed_opened (l : Link) : l.opened.Timed l.network.sockets.length := by
  have hfresh : l.opened.network.sockets[l.network.sockets.length]? = some l.fresh :=
    List.getElem?_concat_length
  rw [Timed, hfresh]
  rfl

end Link

namespace Contact

variable {k : Contact} {i : Nat}

theorem UsualOnTimed.alike_send (hk : k.UsualOnTimed) (bytes : List UInt8) :
    Exchange.Alike i (k.send i bytes) (Exchange.send i bytes) := by
  intro l hl
  refine ⟨(hk l i hl).1 bytes, fun a l' h => ?_⟩
  simp only [Exchange.send, EStateM.run_bind, EStateM.run_get] at h
  cases hfailure : (l.network.sockets[i]?).bind fun s => s.peer.sendFailure with
  | some reason =>
      rw [hfailure] at h
      cases h
  | none =>
      rw [hfailure] at h
      cases h
      apply hl.change
      intro s
      rfl

theorem UsualOnTimed.alike_receive (hk : k.UsualOnTimed) (size : Nat) :
    Exchange.Alike i (k.receive i size) (Exchange.receive i size) := by
  intro l hl
  refine ⟨(hk l i hl).2 size, fun a l' h => ?_⟩
  have houtcome := Exchange.outcome_receive l i size
  rw [h] at houtcome
  obtain ⟨-, rfl⟩ := Prod.mk.inj houtcome
  apply hl.change
  intro s
  rfl

theorem UsualOnTimed.alike_converse (hk : k.UsualOnTimed) (nesting : Nat) (type : Int)
    (payload : List UInt8) :
    Exchange.Alike i (k.converse nesting type payload i) (usual.converse nesting type payload i) := by
  apply (Exchange.alike_ofExcept _ _).bind
  intro frame
  apply (hk.alike_send frame).bind
  intro _
  apply (Exchange.alike_note _).bind
  intro _
  apply (hk.alike_receive _).bind
  intro bytes
  apply (Exchange.alike_ofExcept _ _).bind
  intro header
  apply (hk.alike_receive _).bind
  intro body
  apply (Exchange.alike_note _).bind
  intro _
  by_cases htype : type != header.type
  · simp only [htype, if_true]
    exact Exchange.alike_throw _
  · simp only [htype]
    exact Exchange.alike_ofExcept _ _

/-- A contact that fails on sockets that are not timed. -/
noncomputable def refusing (fault : IpcFault) : Contact where
  send i bytes := fun l => open Classical in
    if l.Timed i then (Exchange.send i bytes).run l else .error fault l
  receive := Exchange.receive

theorem refusing_usualOnTimed (fault : IpcFault) : (refusing fault).UsualOnTimed := by
  intro l i hl
  refine ⟨fun bytes => ?_, fun _ => rfl⟩
  simp only [refusing, EStateM.run, hl, if_true]

theorem run_converse_refusing {l : Link} (hl : ¬ l.Timed i) {type : Int}
    {payload frame : List UInt8} (hframe : Frame.pack type payload = .ok frame) (nesting : Nat)
    (fault : IpcFault) : ((refusing fault).converse nesting type payload i).run l = .error fault l := by
  have hsend : ((refusing fault).send i frame).run l = .error fault l := by
    simp only [refusing, EStateM.run, hl, if_false]
  simp only [converse, hframe, Exchange.ofExcept, pure_bind, EStateM.run_bind, hsend]

end Contact

namespace Link

variable {l : Link} {i : Nat}

theorem keepsToTimed_of_not_call {u : Use} (hu : u.isCall = false) : l.KeepsToTimed u := by
  intro k _
  cases u with
  | call c => cases hu
  | _ => rfl

/-- A call keeps to timed sockets if the one that it would open is timed, or it has nothing to send. -/
theorem keepsToTimed_call {c : Call}
    (h : ∀ frame i l', Frame.pack c.type c.payload = .ok frame →
      Exchange.openSocket.run l = .ok i l' → l'.Timed i) : l.KeepsToTimed (.call c) := by
  intro k hk
  have hrequest : (k.request c.type c.payload).run l =
      (Contact.usual.request c.type c.payload).run l := by
    rw [Contact.run_request, Contact.run_request, EStateM.run_bind, EStateM.run_bind]
    cases hopen : Exchange.openSocket.run l with
    | error fault l' => rfl
    | ok i l' =>
        cases hframe : Frame.pack c.type c.payload with
        | error fault =>
            simp only [Contact.converse, hframe]
            rfl
        | ok frame => exact (hk.alike_converse _ c.type c.payload l' (h frame i l' hframe hopen)).1
  have hperform : (k.perform (.call c)).run l = (Contact.usual.perform (.call c)).run l := by
    simp only [Contact.perform, map_eq_pure_bind, EStateM.run_bind, hrequest]
  rw [hperform, Contact.perform_usual]
  rfl

/-- A call with a message to send, on a socket that is not timed, does not keep to timed ones. -/
theorem not_keepsToTimed_call (hcurrent : l.client.current = some i) (hl : ¬ l.Timed i) {c : Call}
    {frame : List UInt8} (hframe : Frame.pack c.type c.payload = .ok frame) :
    ¬ l.KeepsToTimed (.call c) := by
  intro hkeeps
  have hrefused (fault : IpcFault) : (.error fault, l) = l.use (.call c) := by
    rw [← hkeeps _ (Contact.refusing_usualOnTimed fault)]
    have hopen := Exchange.run_openSocket_open hcurrent
    have hconverse := Contact.run_converse_refusing hl hframe l.client.nesting fault
    simp only [Contact.perform, map_eq_pure_bind, Contact.run_request, EStateM.run_bind, hopen,
      hconverse]
    rfl
  have hboth := (hrefused .noPath).trans (hrefused (.notFound none)).symm
  cases hboth

/-- How long a client waits, and what was set on its open socket if it has one. -/
structure Waits (l : Link) (timeout : Timeout) (onSocket : Option Timeout) : Prop where
  timeout_eq : l.client.timeout = timeout
  socket : ∀ i, l.client.current = some i → l.network.sockets[i]?.map Socket.timeout = some onSocket

variable {timeout : Timeout} {onSocket : Option Timeout}

theorem Waits.change (h : l.Waits timeout onSocket) (j : Nat) (f : Socket → Socket)
    (hf : ∀ s, (f s).timeout = s.timeout) (events : List Event) :
    Waits ⟨l.network.change j f, l.client, events⟩ timeout onSocket where
  timeout_eq := h.timeout_eq
  socket i hi := (timeout_change l.network f hf i).trans (h.socket i hi)

theorem Waits.exchanged (h : l.Waits timeout onSocket) (bytes : List UInt8) (left : List Incoming)
    (events : List Event) : ((l.deliver i bytes).leave i left events).Waits timeout onSocket := by
  have hdelivered : (l.deliver i bytes).Waits timeout onSocket := by
    apply h.change
    intro s
    rfl
  apply hdelivered.change
  intro s
  rfl

theorem Waits.idle (h : l.client.timeout = timeout) (hnone : l.client.current = none) :
    l.Waits timeout onSocket where
  timeout_eq := h
  socket i hi := by
    rw [hnone] at hi
    cases hi

theorem Waits.opened (h : l.client.timeout = timeout) : l.opened.Waits timeout (some timeout) where
  timeout_eq := h
  socket i hi := by
    obtain rfl := Option.some.inj hi
    rw [← h]
    exact timed_opened l

/-- Connecting and closing leave a client no socket or a timed one. -/
theorem Waits.settled (h : l.Waits timeout onSocket) {u : Use} (hu : u.isCall = false) :
    (l.use u).2.Waits timeout (some timeout) := by
  have hconnect {v : Use} (hv : v.connects = true) :
      (l.use v).2.Waits timeout (some timeout) := by
    cases hcurrent : l.client.current with
    | some i =>
        rw [use_connect_open hv hcurrent]
        refine ⟨h.timeout_eq, fun j hj => ?_⟩
        obtain rfl : i = j := Option.some.inj (hcurrent.symm.trans hj)
        obtain ⟨s, hs, -⟩ := Option.map_eq_some_iff.mp (h.socket i hcurrent)
        simp [Network.change, hs, h.timeout_eq]
    | none =>
        rw [use_connect_idle hv hcurrent]
        cases l.network.nextPeer.fault? l.client.path with
        | none => exact .opened h.timeout_eq
        | some fault => exact .idle h.timeout_eq hcurrent
  have hclose {v : Use} (hv : v.closes = true) : (l.use v).2.Waits timeout (some timeout) := by
    cases hcurrent : l.client.current with
    | some i =>
        rw [use_close_open hv hcurrent]
        exact .idle h.timeout_eq rfl
    | none =>
        rw [use_close_idle hv hcurrent]
        exact .idle h.timeout_eq hcurrent
  cases u with
  | connect => exact hconnect rfl
  | enter => exact hconnect rfl
  | close => exact hclose rfl
  | exit => exact hclose rfl
  | call c => cases hu

/-- A call on the open socket leaves it the open one, with the time to wait that it has. -/
theorem Waits.called (h : l.Waits timeout onSocket) (hcurrent : l.client.current = some i)
    (c : Call) :
    (l.use (.call c)).2.Waits timeout onSocket ∧ (l.use (.call c)).2.client.current = some i := by
  obtain ⟨s, hs, -⟩ := Option.map_eq_some_iff.mp (h.socket i hcurrent)
  obtain ⟨left, events, hcall⟩ := use_call_open hcurrent hs c
  rw [hcall]
  exact ⟨h.exchanged _ left events, hcurrent⟩

/-- No use changes a client whose open socket is timed into one whose open socket is not. -/
theorem Waits.use (h : l.Waits timeout (some timeout)) (u : Use) :
    (l.use u).2.Waits timeout (some timeout) := by
  cases hu : u.isCall with
  | false => exact h.settled hu
  | true =>
      obtain ⟨c, rfl⟩ : ∃ c, u = .call c := by
        cases u with
        | call c => exact ⟨c, rfl⟩
        | _ => cases hu
      cases hcurrent : l.client.current with
      | some i => exact (h.called hcurrent c).1
      | none =>
          cases hreach : l.network.nextPeer.fault? l.client.path with
          | none =>
              obtain ⟨left, events, hcall⟩ := use_call_idle hcurrent c hreach
              rw [hcall]
              exact (Waits.opened h.timeout_eq).exchanged _ left events
          | some fault =>
              rw [use_call_unconnected hcurrent c hreach]
              exact .idle h.timeout_eq hcurrent

theorem Waits.after (h : l.Waits timeout (some timeout)) (uses : List Use) :
    (l.after uses).Waits timeout (some timeout) := by
  induction uses generalizing l with
  | nil => exact h
  | cons u rest ih => exact ih (h.use u)

/-- A client that has no socket or a timed one keeps to timed sockets. -/
theorem Waits.keepsToTimed (h : l.Waits timeout (some timeout)) (u : Use) : l.KeepsToTimed u := by
  cases u with
  | call c =>
      apply keepsToTimed_call
      intro _ i l' _ hopen
      cases hcurrent : l.client.current with
      | some j =>
          rw [Exchange.run_openSocket_open hcurrent] at hopen
          cases hopen
          rw [Timed, h.timeout_eq]
          exact h.socket i hcurrent
      | none =>
          rw [Exchange.run_openSocket_idle hcurrent] at hopen
          cases hreach : l.network.nextPeer.fault? l.client.path with
          | none =>
              rw [hreach] at hopen
              cases hopen
              exact timed_opened l
          | some fault =>
              rw [hreach] at hopen
              cases hopen
  | _ => exact keepsToTimed_of_not_call rfl

/-- A socket that was given stays as it is through calls, and any other use settles how long it waits. -/
theorem Waits.after_given (h : l.Waits timeout none) (hcurrent : l.client.current = some i)
    (uses : List Use) :
    if ∃ u ∈ uses, u.isCall = false then (l.after uses).Waits timeout (some timeout)
    else (l.after uses).Waits timeout none ∧ (l.after uses).client.current = some i := by
  induction uses generalizing l with
  | nil => simpa using ⟨h, hcurrent⟩
  | cons u rest ih =>
      cases hu : u.isCall with
      | false =>
          rw [if_pos ⟨u, List.mem_cons_self, hu⟩]
          exact (h.settled hu).after rest
      | true =>
          have hlater : (∃ v ∈ u :: rest, v.isCall = false) ↔ ∃ v ∈ rest, v.isCall = false := by
            simp [hu]
          simp only [hlater]
          cases u with
          | call c =>
              obtain ⟨hwaits, hstill⟩ := h.called hcurrent c
              exact ih hwaits hstill
          | _ => cases hu

end Link

namespace ClientPlan

/-- A client that was given no socket starts with none. -/
theorem link_waits {plan : ClientPlan} {peers : List Peer} {l : Link}
    (hlink : plan.link peers = .ok l) :
    if plan.preconnected then l.Waits plan.timeout none ∧ l.client.current = some 0
    else l.Waits plan.timeout (some plan.timeout) := by
  unfold link at hlink
  cases hgiven : plan.preconnected with
  | true =>
      rw [hgiven] at hlink
      obtain rfl := Except.ok.inj hlink
      refine ⟨⟨rfl, fun i hi => ?_⟩, rfl⟩
      obtain rfl := Option.some.inj hi
      rfl
  | false =>
      rw [hgiven] at hlink
      split at hlink
      · contradiction
      split at hlink
      · cases hlink
      obtain rfl := Except.ok.inj hlink
      exact .idle rfl rfl

/-- A client keeps its time to wait for life, and keeps to timed sockets in every use, but for one case:
it was given its socket, has only been called since, and is called with a message to send. -/
theorem keepsToTimed_iff {plan : ClientPlan} {peers : List Peer} {l : Link}
    (hlink : plan.link peers = .ok l) (history : List Use) :
    (l.after history).client.timeout = plan.timeout ∧
      ∀ u, (l.after history).KeepsToTimed u ↔
        (plan.preconnected = true → ∀ c frame, u = .call c → Frame.pack c.type c.payload = .ok frame →
          ∃ v ∈ history, v.isCall = false) := by
  have hstart := link_waits hlink
  cases hgiven : plan.preconnected with
  | false =>
      rw [hgiven] at hstart
      have hwaits := Link.Waits.after hstart history
      refine ⟨hwaits.timeout_eq, fun u => ⟨fun _ => nofun, fun _ => hwaits.keepsToTimed u⟩⟩
  | true =>
      rw [hgiven] at hstart
      have hwaits := hstart.1.after_given hstart.2 history
      by_cases hsettled : ∃ v ∈ history, v.isCall = false
      · rw [if_pos hsettled] at hwaits
        refine ⟨hwaits.timeout_eq, fun u => ⟨?_, fun _ => hwaits.keepsToTimed u⟩⟩
        intro _ _ c frame _ _
        exact hsettled
      · rw [if_neg hsettled] at hwaits
        obtain ⟨hwaits, hcurrent⟩ := hwaits
        refine ⟨hwaits.timeout_eq, fun u => ⟨?_, ?_⟩⟩
        · rintro hkeeps - c frame rfl hframe
          have huntimed : ¬ (l.after history).Timed 0 := by
            rw [Link.Timed, hwaits.socket 0 hcurrent]
            exact nofun
          exact absurd hkeeps (Link.not_keepsToTimed_call hcurrent huntimed hframe)
        · intro hallowed
          cases u with
          | call c =>
              apply Link.keepsToTimed_call
              intro frame i l' hframe _
              exact absurd (hallowed rfl c frame rfl hframe) hsettled
          | _ => exact Link.keepsToTimed_of_not_call rfl

/-- A peer that tells an empty version. -/
def silentVersion : Peer := ⟨.accepted, none, [.chunk (Frame.headerBytes 2 7 ++ [0x7B, 0x7D])]⟩

/-- A client around a socket that is connected already, with the usual time to wait. -/
def aroundSocket : ClientPlan := ⟨none, some (.real defaultTimeout), true, Json.usualNesting⟩

/-- A client that is entered before it is called keeps to timed sockets from then on. -/
theorem aroundSocket_entered_keepsToTimed :
    ∃ l, aroundSocket.link [silentVersion] = .ok l ∧
      (l.after [.enter]).KeepsToTimed (.call .getVersion) ∧
      (l.after [.enter, .call .getVersion, .exit]).client.timeout = some (.real defaultTimeout) := by
  have hlink : aroundSocket.link [silentVersion] = .ok _ := rfl
  refine ⟨_, hlink, ?_, (keepsToTimed_iff hlink _).1⟩
  apply ((keepsToTimed_iff hlink [.enter]).2 _).mpr
  intro _ c frame _ _
  exact ⟨.enter, List.mem_singleton_self _, rfl⟩

theorem use_aroundSocket (timeout : Timeout) :
    let l : Link :=
      ⟨⟨[⟨none, none, [], false, silentVersion⟩], []⟩, ⟨none, timeout, some 0, Json.usualNesting⟩, []⟩
    (l.use (.call .getVersion)).1 = .ok (some (.version [])) ∧
      (l.use (.call .getVersion)).2.network.sockets.map (fun s => (s.timeout, s.sent)) =
        [(none, Frame.headerBytes 0 7)] := by
  constructor
  · with_unfolding_all rfl
  · with_unfolding_all rfl

/-- Asked at once, the client sends its message and reads the reply on a socket that no time to wait was
ever set on. -/
theorem aroundSocket_asked_untimed :
    ∃ l, aroundSocket.link [silentVersion] = .ok l ∧ ¬ l.KeepsToTimed (.call .getVersion) ∧
      (l.use (.call .getVersion)).1 = .ok (some (.version [])) ∧
      (l.use (.call .getVersion)).2.network.sockets.map (fun s => (s.timeout, s.sent)) =
        [(none, Frame.headerBytes 0 7)] := by
  refine ⟨_, rfl, ?_, use_aroundSocket _⟩
  have hframe : Frame.pack Call.getVersion.type Call.getVersion.payload =
      .ok (Frame.headerBytes 0 7) := by decide
  refine Link.not_keepsToTimed_call rfl ?_ hframe
  exact nofun

end ClientPlan

end SwayControl
