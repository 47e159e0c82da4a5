import SwayControl.Proofs.Ipc.Visit

/-!
The sockets of a client over its whole life. A client may be connected, entered, left, closed and called
in any order, and any of that may fail; of all the sockets there ever were only the client's own is open.
-/

namespace SwayControl

/-- What can be done with a client. -/
inductive Use where
  | connect
  | enter
  | close
  | exit
  | call (c : Call)

namespace Use

/-- A use as it is made, and what it gives if it is a call. -/
def perform : Use → Exchange (Option Response)
  | .connect | .enter => do Exchange.connect; return none
  | .close | .exit => do Exchange.close; return none
  | .call c => some <$> c.perform

def connects : Use → Bool
  | .connect | .enter => true
  | _ => false

def closes : Use → Bool
  | .close | .exit => true
  | _ => false

theorem perform_of_connects {u : Use} (h : u.connects = true) :
    u.perform = Exchange.connect >>= fun _ => pure none := by
  cases u <;> first | rfl | cases h

theorem perform_of_closes {u : Use} (h : u.closes = true) :
    u.perform = Exchange.close >>= fun _ => pure none := by
  cases u <;> first | rfl | cases h

end Use

/-- Why a client cannot connect to a peer at a path. -/
def Peer.fault? (peer : Peer) (path : Option String) : Option IpcFault :=
  match peer.connecting with
  | .accepted => none
  | .missing => some (.notFound path)
  | .refused reason => some (.cannotConnect path reason)

namespace Link

/-- Makes a use: what it gives and the link after it. -/
def use (l : Link) (u : Use) : Except IpcFault (Option Response) × Link := outcome (u.perform.run l)

/-- The link after uses that are made one after another, whether they fail or not. -/
def after (l : Link) : List Use → Link
  | [] => l
  | u :: rest => (l.use u).2.after rest

/-- A socket that was created or given and is not closed. -/
def IsOpen (l : Link) (i : Nat) : Prop := l.network.sockets[i]?.map Socket.closed = some false

/-- The socket that a client creates next, when it is connected. -/
def fresh (l : Link) : Socket := ⟨l.client.path, some l.client.timeout, [], false, l.network.nextPeer⟩

/-- A link with one more socket. -/
def create (l : Link) (s : Socket) : Link :=
  { l with network := ⟨l.network.sockets ++ [s], l.network.waiting.tail⟩ }

/-- A link whose client has connected on a socket of its own. -/
def opened (l : Link) : Link :=
  { l.create l.fresh with
    client := { l.client with current := some l.network.sockets.length }
    events := l.events ++ [.connected l.client.path] }

/-- A link whose client has failed to connect. -/
def abandoned (l : Link) : Link := l.create { l.fresh with closed := true }

/-- Of all sockets only that of the client is open, and the client keeps its path. -/
structure Sole (l : Link) (path : Option String) : Prop where
  open_iff : ∀ i, l.IsOpen i ↔ l.client.current = some i
  path_eq : l.client.path = path

variable {l : Link} {path : Option String} {i : Nat}

theorem isOpen_change (f : Socket → Socket) (hf : ∀ s, (f s).closed = s.closed) (client : Client)
    (events : List Event) (j : Nat) :
    IsOpen ⟨l.network.change i f, client, events⟩ j ↔ l.IsOpen j := by
  have hkeeps : Socket.closed ∘ (fun s => if i = j then f s else s) = Socket.closed := by
    funext s
    by_cases hij : i = j <;> simp [hij, hf]
  simp only [IsOpen, Network.change, List.getElem?_modify, Option.map_eq_map, Option.map_map, hkeeps]

theorem isOpen_change_closed (client : Client) (events : List Event) (j : Nat) :
    IsOpen ⟨l.network.change i fun s => { s with closed := true }, client, events⟩ j ↔
      l.IsOpen j ∧ j ≠ i := by
  simp only [IsOpen, Network.change, List.getElem?_modify]
  by_cases hij : i = j
  · subst hij
    simp
  · simp [hij, Ne.symm hij]

theorem isOpen_create (s : Socket) (j : Nat) :
    (l.create s).IsOpen j ↔ l.IsOpen j ∨ (j = l.network.sockets.length ∧ s.closed = false) := by
  simp only [IsOpen, create, List.getElem?_append]
  by_cases hj : j < l.network.sockets.length
  · simp [hj, Nat.ne_of_lt hj]
  · obtain ⟨k, rfl⟩ := Nat.exists_eq_add_of_le (Nat.not_lt.mp hj)
    cases k with
    | zero => simp
    | succ k => simp

theorem change_create (l : Link) (s : Socket) (f : Socket → Socket) :
    (l.create s).network.change l.network.sockets.length f = (l.create (f s)).network := by
  have hlast : (l.network.sockets ++ [s]).modify l.network.sockets.length f =
      l.network.sockets ++ [f s] := List.modifyTailIdx_add (List.modifyHead f) 0 _ [s]
  simp only [Network.change, create, hlast]

theorem Sole.idle (h : l.Sole path) (hnone : l.client.current = none) (j : Nat) : ¬ l.IsOpen j := by
  rw [h.open_iff, hnone]
  exact nofun

/-- A client whose socket is the only one that is open has that socket. -/
theorem Sole.socket (h : l.Sole path) (hcurrent : l.client.current = some i) :
    ∃ s, l.network.sockets[i]? = some s := by
  have hopen := (h.open_iff i).mpr hcurrent
  obtain ⟨s, hs, -⟩ := Option.map_eq_some_iff.mp hopen
  exact ⟨s, hs⟩

/-- What changes neither whether sockets are closed nor the client keeps its socket the only one. -/
theorem Sole.change (h : l.Sole path) (f : Socket → Socket) (hf : ∀ s, (f s).closed = s.closed)
    (events : List Event) : Sole ⟨l.network.change i f, l.client, events⟩ path where
  open_iff j := (isOpen_change f hf l.client events j).trans (h.open_iff j)
  path_eq := h.path_eq

theorem Sole.closed (h : l.Sole path) (hcurrent : l.client.current = some i) :
    Sole ⟨l.network.change i fun s => { s with closed := true }, { l.client with current := none },
      l.events⟩ path where
  open_iff j := by
    rw [isOpen_change_closed, h.open_iff, hcurrent]
    constructor
    · rintro ⟨hsame, hother⟩
      exact absurd (Option.some.inj hsame).symm hother
    · exact nofun
  path_eq := h.path_eq

theorem Sole.opened (h : l.Sole path) (hnone : l.client.current = none) : l.opened.Sole path where
  open_iff j := by
    have hcreated : l.opened.IsOpen j ↔ (l.create l.fresh).IsOpen j := Iff.rfl
    rw [hcreated, isOpen_create]
    constructor
    · rintro (hopen | ⟨rfl, -⟩)
      · exact absurd hopen (h.idle hnone j)
      · rfl
    · intro hcurrent
      exact .inr ⟨(Option.some.inj hcurrent).symm, rfl⟩
  path_eq := h.path_eq

theorem Sole.abandoned (h : l.Sole path) (hnone : l.client.current = none) :
    l.abandoned.Sole path where
  open_iff j := by
    rw [Link.abandoned, isOpen_create]
    constructor
    · rintro (hopen | ⟨-, hclosed⟩)
      · exact absurd hopen (h.idle hnone j)
      · cases hclosed
    · intro hcurrent
      exact absurd (hnone.symm.trans hcurrent) nofun
  path_eq := h.path_eq

/-- Delivering a message and reading from the socket closes nothing. -/
theorem Sole.exchanged (h : l.Sole path) (bytes : List UInt8) (left : List Incoming)
    (events : List Event) : ((l.deliver i bytes).leave i left events).Sole path := by
  have hdelivered : (l.deliver i bytes).Sole path := by
    apply h.change
    intro s
    rfl
  apply hdelivered.change
  intro s
  rfl

end Link

namespace Exchange

variable {l : Link} {i : Nat}

theorem run_connect_open (hcurrent : l.client.current = some i) :
    connect.run l = .ok () ⟨l.network.change i fun s => { s with timeout := some l.client.timeout },
      l.client, l.events⟩ := by
  simp only [connect, EStateM.run_bind, EStateM.run_get, hcurrent]
  rfl

/-- Connecting creates one socket, which is closed again where the peer is not reached. -/
theorem run_connect_idle (hnone : l.client.current = none) :
    connect.run l =
      match l.network.nextPeer.fault? l.client.path with
      | none => .ok () l.opened
      | some fault => .error fault l.abandoned := by
  let bare : Socket := ⟨none, some l.client.timeout, [], false, l.network.nextPeer⟩
  have hcreate : createSocket.run l =
      .ok (l.network.sockets.length, l.network.nextPeer) (l.create bare) := rfl
  have hset (s : Socket) (f : Socket → Socket) :
      (changeSocket l.network.sockets.length f).run (l.create s) = .ok () (l.create (f s)) := by
    have hchange := l.change_create s f
    simp only [changeSocket, EStateM.run_modify, hchange]
    rfl
  simp only [connect, EStateM.run_bind, EStateM.run_get, hnone, hcreate, hset]
  unfold Peer.fault?
  cases l.network.nextPeer.connecting with
  | accepted => rfl
  | missing =>
      simp only [abandon, EStateM.run_bind, hset]
      rfl
  | refused reason =>
      simp only [abandon, EStateM.run_bind, hset]
      rfl

theorem run_openSocket_open (hcurrent : l.client.current = some i) : openSocket.run l = .ok i l := by
  simp only [openSocket, EStateM.run_bind, EStateM.run_get, hcurrent]
  rfl

theorem run_openSocket_idle (hnone : l.client.current = none) :
    openSocket.run l =
      match l.network.nextPeer.fault? l.client.path with
      | none => .ok l.network.sockets.length l.opened
      | some fault => .error fault l.abandoned := by
  have hconnect := run_connect_idle hnone
  simp only [openSocket, EStateM.run_bind, EStateM.run_get, hnone, hconnect]
  cases l.network.nextPeer.fault? l.client.path <;> rfl

/-- A request of a client without a socket connects first, and is made as on the socket it gets. -/
theorem run_request_idle (hnone : l.client.current = none) (type : Int) (payload : List UInt8) :
    (request type payload).run l =
      match l.network.nextPeer.fault? l.client.path with
      | none => (request type payload).run l.opened
      | some fault => .error fault l.abandoned := by
  have hopened : openSocket.run l.opened = .ok l.network.sockets.length l.opened :=
    run_openSocket_open rfl
  rw [run_request_eq, run_request_eq, EStateM.run_bind, EStateM.run_bind, run_openSocket_idle hnone,
    hopened]
  cases l.network.nextPeer.fault? l.client.path <;> rfl

end Exchange

theorem Call.perform_eq_ask (c : Call) : c.perform = Exchange.ask c.type c.payload c.read :=
  c.perform_eq

namespace Link

variable {l : Link} {path : Option String} {i : Nat}

theorem outcome_map {α β : Type} (f : α → β) (x : Exchange α) :
    outcome ((f <$> x).run l) = ((outcome (x.run l)).1.map f, (outcome (x.run l)).2) := by
  rw [map_eq_pure_bind, EStateM.run_bind]
  cases x.run l <;> rfl

theorem use_call (c : Call) :
    l.use (.call c) = ((l.answer c).1.map some, (l.answer c).2) := outcome_map some c.perform

theorem use_connect_open {u : Use} (hu : u.connects = true) (hcurrent : l.client.current = some i) :
    l.use u = (.ok none, ⟨l.network.change i fun s => { s with timeout := some l.client.timeout },
      l.client, l.events⟩) := by
  rw [use, Use.perform_of_connects hu, EStateM.run_bind, Exchange.run_connect_open hcurrent]
  rfl

theorem use_connect_idle {u : Use} (hu : u.connects = true) (hnone : l.client.current = none) :
    l.use u =
      match l.network.nextPeer.fault? l.client.path with
      | none => (.ok none, l.opened)
      | some fault => (.error fault, l.abandoned) := by
  rw [use, Use.perform_of_connects hu, EStateM.run_bind, Exchange.run_connect_idle hnone]
  cases l.network.nextPeer.fault? l.client.path <;> rfl

theorem use_close_open {u : Use} (hu : u.closes = true) (hcurrent : l.client.current = some i) :
    l.use u = (.ok none, ⟨l.network.change i fun s => { s with closed := true },
      { l.client with current := none }, l.events⟩) := by
  rw [use, Use.perform_of_closes hu, EStateM.run_bind, Exchange.run_close hcurrent]
  rfl

theorem use_close_idle {u : Use} (hu : u.closes = true) (hnone : l.client.current = none) :
    l.use u = (.ok none, l) := by
  have hclose : Exchange.close.run l = .ok () l := by
    simp only [Exchange.close, EStateM.run_bind, EStateM.run_get, hnone]
    rfl
  rw [use, Use.perform_of_closes hu, EStateM.run_bind, hclose]
  rfl

/-- A call of a client with a socket uses that socket and no other. -/
theorem use_call_open {s : Socket} (hcurrent : l.client.current = some i)
    (hs : l.network.sockets[i]? = some s) (c : Call) :
    ∃ left events, (l.use (.call c)).2 =
      (l.deliver i (s.peer.taken c.type c.payload)).leave i left events := by
  obtain ⟨left, events, hask⟩ := Exchange.outcome_ask hcurrent hs c.type c.payload c.read
  refine ⟨left, events, ?_⟩
  rw [use_call, answer, Call.perform_eq_ask, hask]

/-- A call of a client without a socket uses a socket of its own. -/
theorem use_call_idle (hnone : l.client.current = none) (c : Call)
    (hreach : l.network.nextPeer.fault? l.client.path = none) :
    ∃ left events, (l.use (.call c)).2 =
      (l.opened.deliver l.network.sockets.length
        (l.network.nextPeer.taken c.type c.payload)).leave l.network.sockets.length left events := by
  have hrequest := Exchange.run_request_idle hnone c.type c.payload
  rw [hreach] at hrequest
  have hsame : l.use (.call c) = l.opened.use (.call c) := by
    rw [use_call, use_call, answer, answer, Call.perform_eq, EStateM.run_bind, EStateM.run_bind,
      hrequest]
  have hfresh : l.opened.network.sockets[l.network.sockets.length]? = some l.fresh :=
    List.getElem?_concat_length
  rw [hsame]
  exact use_call_open rfl hfresh c

/-- A call of a client that cannot connect fails and sends nothing. -/
theorem use_call_unconnected (hnone : l.client.current = none) (c : Call) {fault : IpcFault}
    (hfault : l.network.nextPeer.fault? l.client.path = some fault) :
    l.use (.call c) = (.error fault, l.abandoned) := by
  have hrequest := Exchange.run_request_idle hnone c.type c.payload
  rw [hfault] at hrequest
  rw [use_call, answer, Call.perform_eq, EStateM.run_bind, hrequest]
  rfl

theorem Sole.use_call (h : l.Sole path) (c : Call) : (l.use (.call c)).2.Sole path := by
  cases hcurrent : l.client.current with
  | some i =>
      obtain ⟨s, hs⟩ := h.socket hcurrent
      obtain ⟨left, events, hcall⟩ := use_call_open hcurrent hs c
      rw [hcall]
      exact h.exchanged _ left events
  | none =>
      cases hreach : l.network.nextPeer.fault? l.client.path with
      | none =>
          obtain ⟨left, events, hcall⟩ := use_call_idle hcurrent c hreach
          rw [hcall]
          exact (h.opened hcurrent).exchanged _ left events
      | some fault =>
          rw [use_call_unconnected hcurrent c hreach]
          exact h.abandoned hcurrent

theorem Sole.use_connect (h : l.Sole path) {u : Use} (hu : u.connects = true) :
    (l.use u).2.Sole path := by
  cases hcurrent : l.client.current with
  | some i =>
      rw [use_connect_open hu hcurrent]
      apply h.change
      intro s
      rfl
  | none =>
      rw [use_connect_idle hu hcurrent]
      cases l.network.nextPeer.fault? l.client.path with
      | none => exact h.opened hcurrent
      | some fault => exact h.abandoned hcurrent

theorem Sole.use_close (h : l.Sole path) {u : Use} (hu : u.closes = true) :
    (l.use u).2.Sole path ∧ (l.use u).2.client.current = none := by
  cases hcurrent : l.client.current with
  | some i =>
      rw [use_close_open hu hcurrent]
      exact ⟨h.closed hcurrent, rfl⟩
  | none =>
      rw [use_close_idle hu hcurrent]
      exact ⟨h, hcurrent⟩

/-- No use leaves a second socket open, whether it fails or not. -/
theorem Sole.use (h : l.Sole path) (u : Use) : (l.use u).2.Sole path := by
  cases u with
  | connect => exact h.use_connect rfl
  | enter => exact h.use_connect rfl
  | close => exact (h.use_close rfl).1
  | exit => exact (h.use_close rfl).1
  | call c => exact h.use_call c

theorem Sole.after (h : l.Sole path) (uses : List Use) : (l.after uses).Sole path := by
  induction uses generalizing l with
  | nil => exact h
  | cons u rest ih => exact ih (h.use u)

/-- A call is made on one new socket at a path: its message is sent there if the peer is reached, and
nothing is sent on any other. -/
def CallsAnew (l : Link) (path : String) (c : Call) : Prop :=
  ∃ s, (l.use (.call c)).2.network.sockets = l.network.sockets ++ [s] ∧ s.path = some path ∧
    match l.network.nextPeer.fault? (some path) with
    | none => s.sent = l.network.nextPeer.taken c.type c.payload
    | some fault => s.sent = [] ∧ s.closed = true ∧ (l.use (.call c)).1 = .error fault

theorem Sole.callsAnew {path : String} (h : l.Sole (some path)) (hnone : l.client.current = none)
    (c : Call) : l.CallsAnew path c := by
  unfold CallsAnew
  rw [← h.path_eq]
  cases hreach : l.network.nextPeer.fault? l.client.path with
  | none =>
      obtain ⟨left, events, hcall⟩ := use_call_idle hnone c hreach
      let taken := l.network.nextPeer.taken c.type c.payload
      let answered : Socket :=
        { l.fresh with sent := taken, peer := { l.network.nextPeer with incoming := left } }
      have hdelivered : (l.opened.deliver l.network.sockets.length taken).network =
          (l.create { l.fresh with sent := taken }).network := change_create l l.fresh _
      refine ⟨answered, ?_, rfl, rfl⟩
      rw [hcall, leave, hdelivered, change_create]
      rfl
  | some fault =>
      have hcall := use_call_unconnected hnone c hreach
      refine ⟨{ l.fresh with closed := true }, ?_, rfl, rfl, rfl, ?_⟩
      · rw [hcall]
        rfl
      · rw [hcall]

theorem current_use_connect_failed {u : Use} (hu : u.connects = true) {fault : IpcFault}
    (hfault : (l.use u).1 = .error fault) : (l.use u).2.client.current = none := by
  cases hcurrent : l.client.current with
  | some i =>
      rw [use_connect_open hu hcurrent] at hfault
      cases hfault
  | none =>
      rw [use_connect_idle hu hcurrent] at hfault ⊢
      cases hreach : l.network.nextPeer.fault? l.client.path with
      | none =>
          rw [hreach] at hfault
          cases hfault
      | some fault => exact hcurrent

theorem length_use_connect {u : Use} (hu : u.connects = true) (hcurrent : l.client.current = some i) :
    (l.use u).2.network.sockets.length = l.network.sockets.length := by
  rw [use_connect_open hu hcurrent]
  exact List.length_modify ..

end Link

namespace ClientPlan

/-- A client that has a path starts without an open socket, or with the one that it was given. -/
theorem link_sole {plan : ClientPlan} {path : String} (hpath : plan.path = some path)
    (hname : path ≠ "") (peers : List Peer) :
    ∃ l, plan.link peers = .ok l ∧ l.Sole (some path) := by
  cases hgiven : plan.preconnected with
  | true =>
      refine ⟨⟨Network.create ⟨[], peers⟩ none, plan.client (some 0), []⟩, ?_, ?_, hpath⟩
      · simp [link, hgiven]
      intro i
      cases i with
      | zero => exact ⟨fun _ => rfl, fun _ => rfl⟩
      | succ i => exact ⟨by rintro ⟨⟩, by rintro ⟨⟩⟩
  | false =>
      have hnamed : plan.path.all String.isEmpty = false := by simpa [hpath] using hname
      refine ⟨⟨⟨[], peers⟩, plan.client none, []⟩, ?_, ?_, hpath⟩
      · simp [link, hgiven, hnamed]
      · intro i
        exact ⟨by rintro ⟨⟩, by rintro ⟨⟩⟩

/-- Whatever was done with a client that has a path, of all the sockets it was given or has created only
its own is open. Closing leaves none open, nor does connecting where it fails; connecting again creates
no socket, and a call after that is made on one new socket at the same path. -/
theorem one_open_socket {plan : ClientPlan} {path : String} (hpath : plan.path = some path)
    (hname : path ≠ "") (peers : List Peer) :
    ∃ l, plan.link peers = .ok l ∧ ∀ history : List Use,
      let now := l.after history
      (∀ i, now.IsOpen i ↔ now.client.current = some i) ∧
      (∀ u, u.closes = true → ∀ i, ¬ (now.use u).2.IsOpen i) ∧
      (∀ u fault, u.connects = true → (now.use u).1 = .error fault → ∀ i, ¬ (now.use u).2.IsOpen i) ∧
      (∀ u i, u.connects = true → now.client.current = some i →
        (now.use u).2.network.sockets.length = now.network.sockets.length) ∧
      (∀ c, (∀ i, ¬ now.IsOpen i) → now.CallsAnew path c) ∧
      ∀ u c, u.closes = true → (now.use u).2.CallsAnew path c := by
  obtain ⟨l, hlink, hstart⟩ := link_sole hpath hname peers
  refine ⟨l, hlink, fun history => ?_⟩
  have hnow := hstart.after history
  refine ⟨hnow.open_iff, ?_, ?_, ?_, ?_, ?_⟩
  · intro u hu
    obtain ⟨hclosed, hnone⟩ := hnow.use_close hu
    exact hclosed.idle hnone
  · intro u fault hu hfault
    exact (hnow.use u).idle (Link.current_use_connect_failed hu hfault)
  · intro u i hu hcurrent
    exact Link.length_use_connect hu hcurrent
  · intro c hidle
    apply hnow.callsAnew
    rw [Option.eq_none_iff_forall_not_mem]
    intro i hcurrent
    exact hidle i ((hnow.open_iff i).mpr hcurrent)
  · intro u c hu
    obtain ⟨hclosed, hnone⟩ := hnow.use_close hu
    exact hclosed.callsAnew hnone c

/-- A client whose given socket has nothing to be read fails, is closed and asks again elsewhere. -/
theorem one_open_socket_given :
    let peer : Peer := ⟨.accepted, none, []⟩
    ∃ l, link ⟨some "/run/sway.sock", none, true, Json.usualNesting⟩ [peer, peer] = .ok l ∧
      let closed := ((l.after [.call .getVersion]).use .close).2
      ∃ s, (closed.use (.call .getVersion)).2.network.sockets = closed.network.sockets ++ [s] ∧
        s.path = some "/run/sway.sock" ∧ s.sent = Frame.headerBytes 0 7 := by
  intro peer
  have hpath : ClientPlan.path ⟨some "/run/sway.sock", none, true, Json.usualNesting⟩ =
      some "/run/sway.sock" := rfl
  obtain ⟨l, hlink, h⟩ := one_open_socket hpath (by decide) [peer, peer]
  obtain ⟨-, -, -, -, -, hanew⟩ := h [.call .getVersion]
  obtain ⟨s, hsockets, hpath, hsent⟩ := hanew .close .getVersion rfl
  obtain rfl := Except.ok.inj hlink
  exact ⟨_, rfl, s, hsockets, hpath, hsent⟩

end ClientPlan

end SwayControl
