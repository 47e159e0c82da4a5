import SwayControl.Proofs.Ipc.Readable
import SwayControl.Proofs.Json.Nesting
import SwayControl.Service.Version

/-!
Services contain what goes wrong with the window manager, but for one fault. However a client, its socket
and its peer behave, no socket stays open, and at most one message was sent, whole. Running a batch and
asking for the version end in a result, unless the reply nests deeper than its reader goes: that fault is
handed on.
-/

namespace SwayControl

section Faults

variable {type : Int} {payload frame : List UInt8} {peer : Peer} {nesting : Nat}
  {inner : Json.Container}

theorem IpcFault.uncontained_eq_some_iff {fault : IpcFault} (h : fault.isExchanged = true)
    {uncontained : Uncontained} : fault.uncontained? = some uncontained ↔
      ∃ inner, uncontained = .tooDeep inner ∧ fault = .tooDeep inner := by
  cases fault with
  | tooDeep inner => simp [uncontained?, eq_comm]
  | unframable fault => cases h
  | _ => simp [uncontained?]

/-- What a peer answers a message that has a frame. -/
theorem answer_failsAs (hframe : Frame.pack type payload = .ok frame) (peer : Peer) (nesting : Nat) :
    FailsAs (fun fault => fault.isExchanged = true) (peer.answer nesting type payload) := by
  unfold Peer.answer
  rw [hframe]
  cases peer.sendFailure with
  | none => exact readReply_failsAs nesting type peer.incoming
  | some reason => exact failsAs_error rfl

theorem answer_eq_tooDeep_iff (hframe : Frame.pack type payload = .ok frame) :
    peer.answer nesting type payload = .error (.tooDeep inner) ↔
      peer.sendFailure = none ∧ peer.Overnests nesting type inner := by
  unfold Peer.answer
  rw [hframe, Peer.overnests_iff]
  cases peer.sendFailure with
  | none => simp [Except.mapError, bind, Except.bind]
  | some reason => simp [Except.mapError, bind, Except.bind, throw, throwThe, MonadExceptOf.throw]

theorem readOutcomeReply_failsAs (value : Datum) :
    FailsAs IpcFault.Ordinary (Exchange.readOutcomeReply value) := by
  cases value with
  | list values =>
      apply failsAs_mapError
      exact fun _ => ⟨rfl, rfl⟩
  | _ => exact failsAs_error ⟨rfl, rfl⟩

theorem readVersionReply_failsAs (value : Datum) :
    FailsAs IpcFault.Ordinary (Exchange.readVersionReply value) := by
  cases value with
  | table entries => exact failsAs_ok entries
  | _ => exact failsAs_error ⟨rfl, rfl⟩

end Faults

namespace ClientPlan

section

variable {α : Type}

/-- What a visit to send one message is answered with. -/
def asked (plan : ClientPlan) (peer : Peer) (type : Int) (payload : List UInt8)
    (read : Datum → Except IpcFault α) : Except IpcFault α := do
  plan.reach peer
  read (← peer.answer plan.nesting type payload)

/-- Whether a message reaches the peer of a visit. -/
def delivers (plan : ClientPlan) (peer : Peer) : Bool :=
  match plan.reach peer with
  | .ok _ => peer.sendFailure.isNone
  | .error _ => false

variable {plan : ClientPlan} {peer : Peer} {type : Int} {payload frame : List UInt8}
  {read : Datum → Except IpcFault α}

theorem delivers_iff : plan.delivers peer = true ↔
    plan.reach peer = .ok () ∧ peer.sendFailure = none := by
  unfold delivers
  cases plan.reach peer <;> simp

theorem reach_failsAs (plan : ClientPlan) (peer : Peer) :
    FailsAs (fun fault => fault.uncontained? = none) (plan.reach peer) := by
  unfold reach
  split
  · exact failsAs_error rfl
  split
  · exact failsAs_ok _
  split
  · exact failsAs_ok _
  · exact failsAs_error rfl
  · exact failsAs_error rfl

/-- A fault that a visit hands on: its message reached the peer, and the reply nests deeper than the reader
of the client goes. -/
def HandsOn (plan : ClientPlan) (peer : Peer) (type : Int) (fault : Uncontained) : Prop :=
  plan.delivers peer = true ∧
    ∃ inner, fault = .tooDeep inner ∧ peer.Overnests plan.nesting type inner

theorem asked_uncontained_iff (hframe : Frame.pack type payload = .ok frame)
    (hread : ∀ value, FailsAs IpcFault.Ordinary (read value)) {uncontained : Uncontained} :
    (∃ fault, plan.asked peer type payload read = .error fault ∧
        fault.uncontained? = some uncontained) ↔ plan.HandsOn peer type uncontained := by
  unfold HandsOn asked
  rw [delivers_iff]
  constructor
  · rintro ⟨fault, hasked, huncontained⟩
    rcases bind_eq_error.mp hasked with hreach | ⟨_, hreach, hanswered⟩
    · rw [reach_failsAs plan peer fault hreach] at huncontained
      cases huncontained
    rcases bind_eq_error.mp hanswered with hanswer | ⟨value, -, hvalue⟩
    · obtain ⟨inner, rfl, rfl⟩ := (IpcFault.uncontained_eq_some_iff
        (answer_failsAs hframe peer plan.nesting fault hanswer)).mp huncontained
      obtain ⟨hsend, hdeep⟩ := (answer_eq_tooDeep_iff hframe).mp hanswer
      exact ⟨⟨hreach, hsend⟩, inner, rfl, hdeep⟩
    · rw [(hread value fault hvalue).2] at huncontained
      cases huncontained
  · rintro ⟨⟨hreach, hsend⟩, inner, rfl, hdeep⟩
    refine ⟨.tooDeep inner, ?_, rfl⟩
    have hanswer := (answer_eq_tooDeep_iff hframe).mpr ⟨hsend, hdeep⟩
    exact bind_eq_error.mpr (.inr ⟨(), hreach, bind_eq_error.mpr (.inl hanswer)⟩)

end

/-- The outcomes that a visit to run a text is answered with. -/
def outcomes (plan : ClientPlan) (peer : Peer) (text : List UInt8) : Except IpcFault (List Outcome) :=
  plan.asked peer runCommandType text Exchange.readOutcomeReply

/-- The entries that a visit to ask for the version is answered with. -/
def version (plan : ClientPlan) (peer : Peer) : Except IpcFault Entries :=
  plan.asked peer getVersionType [] Exchange.readVersionReply

variable {plan : ClientPlan} {peer : Peer}

/-- A message that reaches the peer does so in one frame; of any other no byte is sent. -/
theorem sends_eq {type : Int} {payload frame : List UInt8}
    (hframe : Frame.pack type payload = .ok frame) :
    plan.sends peer type payload = if plan.delivers peer then frame else [] := by
  unfold sends delivers Peer.taken
  rw [hframe]
  cases plan.reach peer with
  | error fault => rfl
  | ok _ => cases peer.sendFailure <;> rfl

/-- What a visit sends is a message in its frame, or nothing. -/
theorem sends_framed {type : Int} {payload : List UInt8} :
    plan.sends peer type payload = [] ∨
      Frame.pack type payload = .ok (plan.sends peer type payload) := by
  cases hframe : Frame.pack type payload with
  | ok frame =>
      rw [sends_eq hframe]
      cases plan.delivers peer
      · exact .inl rfl
      · exact .inr rfl
  | error fault =>
      refine .inl ?_
      unfold sends Peer.taken
      rw [hframe]
      cases plan.reach peer <;> rfl

/-- A visit leaves at most one socket, which is closed. -/
theorem remains_spec (plan : ClientPlan) (peer : Peer) (type : Int) (payload : List UInt8)
    (unread : List Incoming) :
    (plan.remains peer type payload unread).length ≤ 1 ∧
      ∀ s ∈ plan.remains peer type payload unread,
        s.closed = true ∧ s.sent = plan.sends peer type payload := by
  unfold remains
  split
  · exact ⟨Nat.zero_le 1, List.forall_mem_nil _⟩
  · exact ⟨Nat.le_refl 1, List.forall_mem_singleton.mpr ⟨rfl, rfl⟩⟩

theorem remains_eq_nil_iff {type : Int} {payload : List UInt8} {unread : List Incoming} :
    plan.remains peer type payload unread = [] ↔ plan.isStranded = true := by
  unfold remains
  split <;> simp_all

theorem delivers_accepted (hstranded : plan.isStranded = false)
    (hconnecting : peer.connecting = .accepted) (hsend : peer.sendFailure = none) :
    plan.delivers peer = true := by
  unfold delivers reach
  rw [hstranded, hconnecting, hsend]
  cases plan.preconnected <;> rfl

end ClientPlan

namespace Frame

theorem length_byteLoop (bytes : ByteArray) (i : Nat) (done : List UInt8) :
    (ByteArray.toList.loop bytes i done).length = bytes.size - i + done.length := by
  fun_induction ByteArray.toList.loop bytes i done with
  | case1 i done h ih =>
      rw [ih, List.length_cons]
      omega
  | case2 i done h =>
      rw [List.length_reverse]
      omega

theorem length_toUTF8 (text : String) : text.toUTF8.toList.length = text.utf8ByteSize :=
  length_byteLoop text.toUTF8 0 []

/-- A text that is not too long has a frame that runs it. -/
theorem pack_text {text : String} (h : text.utf8ByteSize < wordBound) :
    ∃ frame, pack runCommandType text.toUTF8.toList = .ok frame := by
  refine ⟨_, pack_eq_ok_iff.mpr ⟨?_, le_refl _, by decide, rfl⟩⟩
  rwa [length_toUTF8]

end Frame

namespace ServiceResult

/-- A result says either that all went well or, by one of some codes, that something did not. -/
structure Sound (r : ServiceResult) (codes : List String) : Prop where
  ok_iff : r.ok = true ↔ r.error = none
  failure : ∀ e, r.error = some e → r.data = [] ∧ e.code ∈ codes

theorem sound_success (op : String) (data : Entries) (codes : List String) :
    (success op data).Sound codes where
  ok_iff := by simp [success]
  failure := by simp [success]

theorem sound_failure {code : String} {codes : List String} (h : code ∈ codes) (op message : String)
    (detail : Entries) : (failure op code message detail).Sound codes where
  ok_iff := by simp [failure]
  failure := by
    intro e he
    cases he
    exact ⟨rfl, h⟩

end ServiceResult

namespace Served

variable {α : Type} {report : α → ServiceResult} {failed : IpcFault → ServiceResult × List Event}
  {answered : Except IpcFault α}

/-- The result for what a service was answered with, where it ends in one. -/
def verdict (report : α → ServiceResult) (failed : IpcFault → ServiceResult × List Event) :
    Except IpcFault α → ServiceResult
  | .ok a => report a
  | .error fault => (failed fault).1

/-- What a service ends in: the verdict, but for a fault that is handed on. -/
def ending (report : α → ServiceResult) (failed : IpcFault → ServiceResult × List Event) :
    Except IpcFault α → Except Uncontained ServiceResult
  | .ok a => .ok (report a)
  | .error fault =>
    match fault.uncontained? with
    | some uncontained => .error uncontained
    | none => .ok (failed fault).1

theorem result_ofExchange (sockets : List Socket) (events : List Event) :
    (ofExchange report failed (answered, sockets, events)).result = ending report failed answered := by
  cases answered with
  | ok a => rfl
  | error fault =>
      simp only [ofExchange, ending]
      cases fault.uncontained? <;> rfl

theorem sockets_ofExchange (sockets : List Socket) (events : List Event) :
    (ofExchange report failed (answered, sockets, events)).sockets = sockets := by
  cases answered with
  | ok a => rfl
  | error fault =>
      simp only [ofExchange]
      cases fault.uncontained? <;> rfl

theorem eq_verdict_of_ending {r : ServiceResult} (h : ending report failed answered = .ok r) :
    r = verdict report failed answered := by
  cases answered with
  | ok a => exact (Except.ok.inj h).symm
  | error fault =>
      simp only [ending] at h
      split at h
      · cases h
      · exact (Except.ok.inj h).symm

theorem ending_eq_error_iff {uncontained : Uncontained} :
    ending report failed answered = .error uncontained ↔
      ∃ fault, answered = .error fault ∧ fault.uncontained? = some uncontained := by
  cases answered with
  | ok a => simp [ending]
  | error fault => cases huncontained : fault.uncontained? <;> simp [ending, huncontained]

/-- What is certain of a service that has one message for the window manager: how its result looks if it
ends in one, that it leaves at most one socket, which is closed, and that the message was sent in one frame
if it reached the peer and not at all otherwise. -/
structure Contained (served : Served) (codes : List String) (plan : ClientPlan) (peer : Peer)
    (frame : List UInt8) : Prop where
  sound : ∀ r, served.result = .ok r → r.Sound codes
  single : served.sockets.length ≤ 1
  closed : ∀ s ∈ served.sockets, s.closed = true
  sent : ∀ s ∈ served.sockets, s.sent = if plan.delivers peer then frame else []

variable {plan : ClientPlan} {peers : List Peer} {type : Int} {payload frame : List UInt8}
  {read : Datum → Except IpcFault α} {codes : List String}

/-- What a service that asks for one reply ends in, and the sockets that it leaves. -/
theorem parts_of_visit (report : α → ServiceResult) (failed : IpcFault → ServiceResult × List Event)
    (plan : ClientPlan) (peers : List Peer) (type : Int) (payload : List UInt8)
    (read : Datum → Except IpcFault α) :
    let served := ofExchange report failed (plan.serve peers (Exchange.ask type payload read))
    served.result = ending report failed (plan.asked (Peer.first peers) type payload read) ∧
      ∃ unread, served.sockets = plan.remains (Peer.first peers) type payload unread := by
  obtain ⟨unread, events, hserve⟩ := plan.serve_ask peers type payload read
  rw [hserve]
  exact ⟨result_ofExchange _ _, unread, sockets_ofExchange _ _⟩

/-- A service that asks for one reply is contained, and ends in a fault just where its visit hands that
on. -/
theorem visit_contained (hframe : Frame.pack type payload = .ok frame)
    (hread : ∀ value, FailsAs IpcFault.Ordinary (read value))
    (hsound : ∀ answered, (verdict report failed answered).Sound codes) :
    let served := ofExchange report failed (plan.serve peers (Exchange.ask type payload read))
    served.Contained codes plan (Peer.first peers) frame ∧
      (∀ fault, served.result = .error fault ↔ plan.HandsOn (Peer.first peers) type fault) ∧
      (served.sockets = [] ↔ plan.isStranded = true) := by
  obtain ⟨hresult, unread, hsockets⟩ := parts_of_visit report failed plan peers type payload read
  obtain ⟨hsingle, hsocket⟩ := plan.remains_spec (Peer.first peers) type payload unread
  rw [← hsockets] at hsingle hsocket
  refine ⟨⟨fun r hr => ?_, hsingle, fun s hs => (hsocket s hs).1, fun s hs => ?_⟩, fun fault => ?_, ?_⟩
  · rw [eq_verdict_of_ending (hresult.symm.trans hr)]
    exact hsound _
  · rw [(hsocket s hs).2, ClientPlan.sends_eq hframe]
  · rw [hresult, ending_eq_error_iff]
    exact ClientPlan.asked_uncontained_iff hframe hread
  · rw [hsockets]
    exact ClientPlan.remains_eq_nil_iff

theorem contained_idle {result : ServiceResult} (h : result.Sound codes) (events : List Event)
    (peer : Peer) : Contained ⟨.ok result, [], events⟩ codes plan peer frame where
  sound := by
    rintro r ⟨⟩
    exact h
  single := Nat.zero_le 1
  closed := List.forall_mem_nil _
  sent := List.forall_mem_nil _

end Served

namespace Dispatch

/-- The codes that running a batch can fail with. -/
def failureCodes : List String := ["EMPTY_COMMAND", "NO_SOCKET", "IPC_ERROR", "COMMAND_FAILED"]

/-- The result for what a batch is answered with, where a run ends in one. -/
def verdict (order : Order) : Except IpcFault (List Outcome) → ServiceResult :=
  Served.verdict (reported order) (failed order)

theorem sound_verdict (order : Order) (answered : Except IpcFault (List Outcome)) :
    (verdict order answered).Sound failureCodes := by
  cases answered with
  | ok outcomes =>
      simp only [verdict, Served.verdict, reported]
      split
      · exact ServiceResult.sound_success ..
      · exact ServiceResult.sound_failure (by decide) ..
  | error fault =>
      simp only [verdict, Served.verdict, failed]
      split
      · exact ServiceResult.sound_failure (by decide) ..
      · exact ServiceResult.sound_failure (by decide) ..

variable {order : Order} {frame : List UInt8} {plan : ClientPlan} {peers : List Peer}

theorem run_empty (hcount : order.count = 0) (dryRun : Bool) (plan : ClientPlan) (peers : List Peer) :
    run order dryRun plan peers =
      ⟨.ok (.failure "run" "EMPTY_COMMAND" "No commands to run" []), [], []⟩ := by
  simp only [run, hcount, beq_self_eq_true, if_true]

theorem run_dry (hcount : order.count ≠ 0) (plan : ClientPlan) (peers : List Peer) :
    run order true plan peers = ⟨.ok (.success "run" [("command", .text order.text),
      ("count", .int order.count), ("dry_run", .flag true)]), [], []⟩ := by
  simp only [run, beq_iff_eq, hcount, if_false, if_true]

/-- Running no commands and running dry end in a result that no client has a part in. -/
theorem run_idle {dryRun : Bool} (h : order.count = 0 ∨ dryRun = true) :
    ∃ result : ServiceResult, result.Sound failureCodes ∧
      ∀ plan peers, run order dryRun plan peers = ⟨.ok result, [], []⟩ := by
  by_cases hcount : order.count = 0
  · exact ⟨_, ServiceResult.sound_failure (by decide) .., run_empty hcount dryRun⟩
  · obtain rfl := h.resolve_left hcount
    exact ⟨_, ServiceResult.sound_success .., run_dry hcount⟩

/-- Running a batch that is not empty is a visit. -/
theorem run_eq_visit (hcount : order.count ≠ 0) (plan : ClientPlan) (peers : List Peer) :
    run order false plan peers = .ofExchange (reported order) (failed order)
      (plan.serve peers (Exchange.ask runCommandType order.text.toUTF8.toList
        Exchange.readOutcomeReply)) := by
  simp only [run, beq_iff_eq, hcount, if_false, Bool.false_eq_true, Exchange.runCommand_eq_ask]

theorem result_run (hcount : order.count ≠ 0) (plan : ClientPlan) (peers : List Peer) :
    (run order false plan peers).result = Served.ending (reported order) (failed order)
      (plan.outcomes (Peer.first peers) order.text.toUTF8.toList) := by
  rw [run_eq_visit hcount]
  exact (Served.parts_of_visit _ _ plan peers _ _ _).1

/-- The result that a run ends in is that for what it was answered. -/
theorem eq_verdict_of_run (hcount : order.count ≠ 0) {r : ServiceResult}
    (h : (run order false plan peers).result = .ok r) :
    r = verdict order (plan.outcomes (Peer.first peers) order.text.toUTF8.toList) :=
  Served.eq_verdict_of_ending ((result_run hcount plan peers).symm.trans h)

theorem sockets_run (hcount : order.count ≠ 0) (plan : ClientPlan) (peers : List Peer) :
    ∃ unread, (run order false plan peers).sockets =
      plan.remains (Peer.first peers) runCommandType order.text.toUTF8.toList unread := by
  rw [run_eq_visit hcount]
  exact (Served.parts_of_visit _ _ plan peers _ _ _).2

/-- A run whose text has a frame ends in a fault just where its visit hands that on. -/
theorem run_eq_error_iff (hcount : order.count ≠ 0)
    (hframe : Frame.pack runCommandType order.text.toUTF8.toList = .ok frame) {fault : Uncontained} :
    (run order false plan peers).result = .error fault ↔
      plan.HandsOn (Peer.first peers) runCommandType fault := by
  rw [run_eq_visit hcount]
  exact (Served.visit_contained hframe readOutcomeReply_failsAs (sound_verdict order)).2.1 fault

end Dispatch

namespace Version

/-- The codes that asking for the version can fail with. -/
def failureCodes : List String := ["NO_SOCKET", "IPC_ERROR"]

theorem sound_verdict (answered : Except IpcFault Entries) :
    (Served.verdict told failed answered).Sound failureCodes := by
  cases answered with
  | ok entries => exact ServiceResult.sound_success ..
  | error fault =>
      simp only [Served.verdict, failed]
      split
      · exact ServiceResult.sound_failure (by decide) ..
      · exact ServiceResult.sound_failure (by decide) ..

/-- Asking for the version is a visit. -/
theorem run_eq_visit (plan : ClientPlan) (peers : List Peer) :
    run plan peers = .ofExchange told failed
      (plan.serve peers (Exchange.ask getVersionType [] Exchange.readVersionReply)) := by
  rw [run, Exchange.getVersion_eq_ask]

end Version

/-- A peer that answers with a frame of some type in which lists are opened and nothing else. -/
def Peer.opening (type count : Nat) : Peer :=
  ⟨.accepted, none, [.chunk (Frame.headerBytes count type ++ Json.openings count)]⟩

/-- What can be read of that peer is its frame, with the lists in it. -/
theorem Peer.readable_opening {type count : Nat} (htype : type < Frame.wordBound)
    (hcount : count < Frame.wordBound) :
    Frame.Whole (readable (Peer.opening type count).incoming) ∧
      (type : Int) = Frame.messageType (readable (Peer.opening type count).incoming) ∧
      Frame.body (readable (Peer.opening type count).incoming) = Json.openings count := by
  have hlength : (Json.openings count).length = count := List.length_replicate
  have hpack : Frame.pack type (Json.openings count) =
      .ok (Frame.headerBytes count type ++ Json.openings count) :=
    Frame.pack_eq_ok_iff.mpr
      ⟨by rwa [hlength], Int.natCast_nonneg _, by simpa using htype, by rw [hlength]; rfl⟩
  have hsome : Frame.headerBytes count type ++ Json.openings count ≠ [] := by
    intro hnil
    have hheader := Frame.length_headerBytes count type
    rw [(List.append_eq_nil_iff.mp hnil).1] at hheader
    cases hheader
  have hreadable : readable (Peer.opening type count).incoming =
      Frame.headerBytes count type ++ Json.openings count ++ [] := readable_chunk hsome []
  rw [hreadable]
  exact Frame.whole_of_pack hpack []

/-- A reader gives up on more lists than it goes through. -/
theorem Peer.opening_overnests {type count nesting : Nat} (htype : type < Frame.wordBound)
    (hcount : count < Frame.wordBound) (hdeep : nesting + 1 < count) :
    (Peer.opening type count).Overnests nesting type .list := by
  obtain ⟨hwhole, htype, hbody⟩ := readable_opening htype hcount
  refine ⟨hwhole, htype, ?_⟩
  rw [hbody, Json.read_openings, if_pos hdeep]

/-- Each client with a socket or a path hands a fault on where its peer opens too many lists. -/
theorem ClientPlan.handsOn_opening {plan : ClientPlan} {type count : Nat}
    (hstranded : plan.isStranded = false) (htype : type < Frame.wordBound)
    (hcount : count < Frame.wordBound) (hdeep : plan.nesting + 1 < count) :
    plan.HandsOn (Peer.opening type count) type (.tooDeep .list) :=
  ⟨delivers_accepted hstranded rfl rfl, .list, rfl, Peer.opening_overnests htype hcount hdeep⟩

/-- Whatever its client, sockets and peers do, running a batch whose text is not too long leaves no socket
open and has sent its one message or nothing, and so has asking for the version. Both end in a result, unless
the message reached its peer and the reply nests deeper than its reader goes; that fault is handed on, and
no client is spared it. A run of no commands and a dry run need no client: they end alike with any other. -/
theorem services_contain_faults (plan : ClientPlan) (peers : List Peer) :
    (∀ (b : Batch) (normalize dryRun : Bool),
      (b.order normalize).text.utf8ByteSize < Frame.wordBound →
      let served := Dispatch.run (b.order normalize) dryRun plan peers
      (∃ frame, Frame.pack runCommandType (b.order normalize).text.toUTF8.toList = .ok frame ∧
        served.Contained Dispatch.failureCodes plan (Peer.first peers) frame) ∧
      (∀ fault, served.result = .error fault ↔
        b.commands ≠ [] ∧ dryRun = false ∧ plan.HandsOn (Peer.first peers) runCommandType fault) ∧
      (b.commands = [] ∨ dryRun = true →
        served.sockets = [] ∧ served.events = [] ∧
          ∀ other others, Dispatch.run (b.order normalize) dryRun other others = served) ∧
      (b.commands ≠ [] → dryRun = false → (served.sockets = [] ↔ plan.isStranded = true))) ∧
    ((∃ frame, Frame.pack getVersionType [] = .ok frame ∧
        (Version.run plan peers).Contained Version.failureCodes plan (Peer.first peers) frame) ∧
      (∀ fault, (Version.run plan peers).result = .error fault ↔
        plan.HandsOn (Peer.first peers) getVersionType fault) ∧
      ((Version.run plan peers).sockets = [] ↔ plan.isStranded = true)) ∧
    (plan.isStranded = false → plan.nesting + 2 < Frame.wordBound → ∀ type < Frame.wordBound,
      plan.HandsOn (Peer.opening type (plan.nesting + 2)) type (.tooDeep .list)) := by
  refine ⟨?_, ?_, fun hstranded hnesting _ htype =>
    ClientPlan.handsOn_opening hstranded htype hnesting (Nat.lt_succ_self _)⟩
  · intro b normalize dryRun hsize
    obtain ⟨frame, hframe⟩ := Frame.pack_text hsize
    have hcount : (b.order normalize).count = 0 ↔ b.commands = [] := List.length_eq_zero_iff
    by_cases hidle : b.commands = [] ∨ dryRun = true
    · obtain ⟨result, hsound, hrun⟩ := Dispatch.run_idle (hidle.imp_left hcount.mpr)
      rw [hrun plan peers]
      refine ⟨⟨frame, hframe, Served.contained_idle hsound _ _⟩, fun fault => ⟨nofun, ?_⟩,
        fun _ => ⟨rfl, rfl, hrun⟩, ?_⟩
      · rintro ⟨hne, hsending, -⟩
        exact absurd hidle (by simp [hne, hsending])
      · intro hne hsending
        exact absurd hidle (by simp [hne, hsending])
    · obtain ⟨hne, hsending⟩ := not_or.mp hidle
      obtain rfl := Bool.eq_false_of_not_eq_true hsending
      rw [Dispatch.run_eq_visit (mt hcount.mp hne)]
      obtain ⟨hcontained, hfault, hsockets⟩ := Served.visit_contained hframe readOutcomeReply_failsAs
        (Dispatch.sound_verdict (b.order normalize))
      refine ⟨⟨frame, hframe, hcontained⟩, fun fault => ?_, fun h => absurd h hidle,
        fun _ _ => hsockets⟩
      rw [hfault]
      exact ⟨fun h => ⟨hne, rfl, h⟩, fun h => h.2.2⟩
  · rw [Version.run_eq_visit]
    have hframe : Frame.pack getVersionType [] = .ok _ := rfl
    obtain ⟨hcontained, hrest⟩ :=
      Served.visit_contained hframe readVersionReply_failsAs Version.sound_verdict
    exact ⟨⟨_, hframe, hcontained⟩, hrest⟩

/-- A batch of one command. -/
def killBatch : Batch := ⟨[.record .raw [.text "kill"]], "kill"⟩

/-- A client that connects to a path. -/
def pathPlan : ClientPlan := ⟨some "/run/sway.sock", none, false, Json.usualNesting⟩

/-- A peer that takes what is sent, answers with the first byte of a frame, and fails then. -/
def interruptedPeer : Peer := ⟨.accepted, none, [.chunk [0x69], .failure "timed out"]⟩

theorem interruptedPeer_not_whole : ¬ Frame.Whole (readable interruptedPeer.incoming) := by
  intro hwhole
  exact absurd hwhole.header (by decide)

theorem interrupted_run_contained :
    (killBatch.order false).text.utf8ByteSize < Frame.wordBound ∧
      ∃ frame r, Frame.pack runCommandType "kill".toUTF8.toList = .ok frame ∧
        (Dispatch.run (killBatch.order false) false pathPlan [interruptedPeer]).result = .ok r ∧
        (Dispatch.run (killBatch.order false) false pathPlan [interruptedPeer]).Contained
          Dispatch.failureCodes pathPlan interruptedPeer frame ∧
        (Dispatch.run (killBatch.order false) false pathPlan [interruptedPeer]).sockets ≠ [] := by
  have hsize : (killBatch.order false).text.utf8ByteSize < Frame.wordBound := by decide
  obtain ⟨⟨frame, hframe, hcontained⟩, hfault, -, hsockets⟩ :=
    (services_contain_faults pathPlan [interruptedPeer]).1 killBatch false false hsize
  have hstranded : pathPlan.isStranded = false := by decide
  have hvisited := hsockets (List.cons_ne_nil _ _) rfl
  cases hresult : (Dispatch.run (killBatch.order false) false pathPlan [interruptedPeer]).result with
  | ok r =>
      exact ⟨hsize, frame, r, hframe, rfl, hcontained, by rw [Ne, hvisited, hstranded]; simp⟩
  | error fault =>
      obtain ⟨-, -, -, _, -, hdeep⟩ := (hfault fault).mp hresult
      exact absurd hdeep.whole interruptedPeer_not_whole

/-- A run whose reply opens twelve thousand lists ends in no result. -/
theorem opened_lists_escape :
    (killBatch.order false).text.utf8ByteSize < Frame.wordBound ∧ killBatch.commands ≠ [] ∧
      (Dispatch.run (killBatch.order false) false pathPlan
        [Peer.opening runCommandType 12000]).result = .error (.tooDeep .list) ∧
      ¬ ∃ r, (Dispatch.run (killBatch.order false) false pathPlan
        [Peer.opening runCommandType 12000]).result = .ok r := by
  have hsize : (killBatch.order false).text.utf8ByteSize < Frame.wordBound := by decide
  obtain ⟨frame, hframe⟩ := Frame.pack_text hsize
  have hescapes : (Dispatch.run (killBatch.order false) false pathPlan
      [Peer.opening runCommandType 12000]).result = .error (.tooDeep .list) :=
    (Dispatch.run_eq_error_iff (by decide) hframe).mpr
      (ClientPlan.handsOn_opening (by decide) (by decide) (by decide) (by decide))
  refine ⟨hsize, List.cons_ne_nil _ _, hescapes, ?_⟩
  rintro ⟨r, hr⟩
  rw [hescapes] at hr
  cases hr

end SwayControl
