import SwayControl.Proofs.Service.Certification

/-!
How a run ends, and why. There are six ways: without commands, dry, without a socket, with an exchange
that broke down, with commands that failed, and with success. What decides between them are the batch,
the plan of the client and what can be read of its peer, in this order. In none of these ways ends a run
that is answered with what nests deeper than its reader goes, be that JSON or not.
-/

namespace SwayControl

namespace ServiceResult

/-- The code of the error of a result. -/
def code? (r : ServiceResult) : Option String := r.error.map ServiceError.code

@[simp] theorem code?_failure (op code message : String) (detail : Entries) :
    (failure op code message detail).code? = some code := rfl

@[simp] theorem code?_success (op : String) (data : Entries) : (success op data).code? = none := rfl

@[simp] theorem ok_failure (op code message : String) (detail : Entries) :
    (failure op code message detail).ok = false := rfl

@[simp] theorem ok_success (op : String) (data : Entries) : (success op data).ok = true := rfl

end ServiceResult

/-- What is said of a command that failed: its error, or that it failed if it has none or an empty one. -/
def Outcome.complaint (o : Outcome) : String :=
  (o.error.filter fun text => !text.isEmpty).getD "command failed"

/-- A peer spells outcomes if the payload of its reply is a list of values that read as these, one by one. -/
def Peer.Spells (peer : Peer) (outcomes : List Outcome) : Prop :=
  ∃ values, Json.Spells (Frame.body (readable peer.incoming)) (.list values) ∧
    values.map readOutcome = outcomes.map Except.ok

theorem Peer.Spells.unique {peer : Peer} {outcomes others : List Outcome} (h : peer.Spells outcomes)
    (hothers : peer.Spells others) : outcomes = others := by
  obtain ⟨values, hspells, hvalues⟩ := h
  obtain ⟨_, hspells', hvalues'⟩ := hothers
  obtain rfl := Datum.list.inj (hspells.unique hspells')
  rw [hvalues] at hvalues'
  exact List.map_injective_iff.mpr (fun _ _ => Except.ok.inj) hvalues'

namespace ClientPlan

/-- A client has nothing to connect to, or does not find it. -/
def Unreachable (plan : ClientPlan) (peer : Peer) : Prop :=
  plan.isStranded = true ∨ plan.preconnected = false ∧ peer.connecting = .missing

/-- How the exchange of a client that runs commands breaks down. Bytes are short where a read fails and
where the stream ends. -/
inductive Breakdown (plan : ClientPlan) (peer : Peer) : Prop where
  | refused {reason : String} : plan.preconnected = false → peer.connecting = .refused reason →
      Breakdown plan peer
  | unsent {reason : String} : peer.sendFailure = some reason → Breakdown plan peer
  | shortHeader : (readable peer.incoming).length < Frame.headerSize → Breakdown plan peer
  | unmarked : (readable peer.incoming).take Frame.magic.length ≠ Frame.magic → Breakdown plan peer
  | shortBody : (readable peer.incoming).length <
      Frame.headerSize + Frame.bodyLength (readable peer.incoming) → Breakdown plan peer
  | otherType : Frame.messageType (readable peer.incoming) ≠ runCommandType → Breakdown plan peer
  | notJson {fault : JsonFault} : Json.Malformed (Frame.body (readable peer.incoming)) fault →
      Breakdown plan peer
  | notList {value : Datum} : Json.Spells (Frame.body (readable peer.incoming)) value →
      (∀ values, value ≠ .list values) → Breakdown plan peer
  | badOutcome {values : List Datum} {value : Datum} {faults : List OutcomeFault} :
      Json.Spells (Frame.body (readable peer.incoming)) (.list values) → value ∈ values →
      readOutcome value = .error faults → Breakdown plan peer

variable {plan : ClientPlan} {peer : Peer} {text frame : List UInt8} {outcomes : List Outcome}
  {fault : IpcFault}

/-- A client that reaches its peer was not refused and found what it connects to. -/
theorem reach_eq_ok_iff : plan.reach peer = .ok () ↔ ¬ plan.Unreachable peer ∧
    ¬ (plan.preconnected = false ∧ ∃ reason, peer.connecting = .refused reason) := by
  unfold reach Unreachable
  cases plan.isStranded <;> cases plan.preconnected <;> cases peer.connecting <;> simp

theorem isNoSocket_of_reach (h : plan.reach peer = .error fault) :
    fault.isNoSocket = true ↔ plan.Unreachable peer := by
  unfold reach at h
  by_cases hstranded : plan.isStranded = true
  · rw [if_pos hstranded] at h
    cases h
    exact iff_of_true rfl (.inl hstranded)
  rw [if_neg hstranded] at h
  cases hconnected : plan.preconnected with
  | true =>
      rw [hconnected, if_pos rfl] at h
      cases h
  | false =>
      rw [hconnected, if_neg Bool.false_ne_true] at h
      cases hconnecting : peer.connecting with
      | accepted =>
          rw [hconnecting] at h
          cases h
      | missing =>
          rw [hconnecting] at h
          cases h
          exact iff_of_true rfl (.inr ⟨hconnected, hconnecting⟩)
      | refused reason =>
          rw [hconnecting] at h
          cases h
          refine iff_of_false Bool.false_ne_true ?_
          rintro (hnone | ⟨-, hmissing⟩)
          · exact hstranded hnone
          · rw [hconnecting] at hmissing
            cases hmissing

/-- Whether a fault says that there is no socket is decided before anything is exchanged. -/
theorem isNoSocket_of_outcomes (hframe : Frame.pack runCommandType text = .ok frame)
    (h : plan.outcomes peer text = .error fault) :
    fault.isNoSocket = true ↔ plan.Unreachable peer := by
  rcases bind_eq_error.mp h with hreach | ⟨_, hreach, hanswered⟩
  · exact isNoSocket_of_reach hreach
  · have hexchanged : FailsAs (fun fault => fault.isExchanged = true)
        (peer.answer plan.nesting runCommandType text >>= Exchange.readOutcomeReply) :=
      (answer_failsAs hframe peer plan.nesting).bind fun value =>
        (readOutcomeReply_failsAs value).mono fun _ hordinary => hordinary.1
    rw [IpcFault.isNoSocket_of_isExchanged (hexchanged fault hanswered)]
    exact iff_of_false Bool.false_ne_true (reach_eq_ok_iff.mp hreach).1

end ClientPlan

/-- Outcomes are reported where a frame of the right type spells them and does not nest too deep. -/
theorem Peer.reports_iff {peer : Peer} {nesting : Nat} {outcomes : List Outcome} :
    peer.Reports nesting outcomes ↔ Frame.Whole (readable peer.incoming) ∧
      Frame.messageType (readable peer.incoming) = runCommandType ∧ peer.Spells outcomes ∧
      ¬ Json.TooDeep nesting (Frame.body (readable peer.incoming)) := by
  constructor
  · rintro ⟨values, hreply, hread⟩
    obtain ⟨hwhole, htype, hjson⟩ := readReply_eq_ok_iff.mp hreply
    obtain ⟨hspells, hshallow⟩ := Json.read_eq_ok_iff.mp hjson
    exact ⟨hwhole, (Int.ofNat_inj.mp htype).symm, ⟨values, hspells, map_eq_of_mapM_ok hread⟩, hshallow⟩
  · rintro ⟨hwhole, htype, ⟨values, hspells, hvalues⟩, hshallow⟩
    have hjson := Json.read_eq_ok_iff.mpr ⟨hspells, hshallow⟩
    exact ⟨values, readReply_eq_ok_iff.mpr ⟨hwhole, by rw [htype], hjson⟩, mapM_eq_ok_iff.mpr hvalues⟩

namespace ClientPlan

variable {plan : ClientPlan} {peer : Peer} {text frame : List UInt8} {outcomes : List Outcome}

/-- Where nothing breaks down, the peer spells outcomes. -/
theorem exists_spells (h : ¬ plan.Breakdown peer) : ∃ outcomes, peer.Spells outcomes := by
  rcases Json.spells_or_malformed (Frame.body (readable peer.incoming)) with
    ⟨value, hspells⟩ | ⟨fault, hfault⟩
  · by_cases hlist : ∃ values, value = .list values
    · obtain ⟨values, rfl⟩ := hlist
      have hvalues : ∀ value ∈ values, ∃ o, readOutcome value = .ok o := by
        intro value hvalue
        cases hvalid : readOutcome value with
        | ok o => exact ⟨o, rfl⟩
        | error faults => exact absurd (.badOutcome hspells hvalue hvalid) h
      obtain ⟨outcomes, houtcomes⟩ := mapM_eq_ok_of_forall hvalues
      exact ⟨outcomes, values, hspells, map_eq_of_mapM_ok houtcomes⟩
    · exact absurd (.notList hspells (not_exists.mp hlist)) h
  · exact absurd (.notJson hfault) h

/-- Where nothing breaks down, a message reaches its peer, and a frame of its type comes back. -/
theorem exchanged_of_not_breakdown (hreachable : ¬ plan.Unreachable peer) (h : ¬ plan.Breakdown peer) :
    plan.delivers peer = true ∧ Frame.Whole (readable peer.incoming) ∧
      Frame.messageType (readable peer.incoming) = runCommandType := by
  have hreach : plan.reach peer = .ok () :=
    reach_eq_ok_iff.mpr ⟨hreachable, fun ⟨hconnected, _, hrefused⟩ => h (.refused hconnected hrefused)⟩
  have hsend : peer.sendFailure = none := by
    cases hsend : peer.sendFailure with
    | none => rfl
    | some reason => exact absurd (.unsent hsend) h
  have hwhole : Frame.Whole (readable peer.incoming) :=
    { header := Nat.le_of_not_lt fun hshort => h (.shortHeader hshort)
      marked := not_not.mp fun hmarked => h (.unmarked hmarked)
      body := Nat.le_of_not_lt fun hshort => h (.shortBody hshort) }
  have htype : Frame.messageType (readable peer.incoming) = runCommandType :=
    not_not.mp fun hother => h (.otherType hother)
  exact ⟨delivers_iff.mpr ⟨hreach, hsend⟩, hwhole, htype⟩

/-- Where nothing breaks down, there are outcomes unless a fault is handed on. -/
theorem outcomes_of_not_breakdown (hframe : Frame.pack runCommandType text = .ok frame)
    (hreachable : ¬ plan.Unreachable peer) (h : ¬ plan.Breakdown peer)
    (hkept : ∀ fault, ¬ plan.HandsOn peer runCommandType fault) :
    ∃ outcomes, plan.outcomes peer text = .ok outcomes := by
  obtain ⟨hdelivers, hwhole, htype⟩ := exchanged_of_not_breakdown hreachable h
  obtain ⟨outcomes, hspells⟩ := exists_spells h
  have hshallow : ¬ Json.TooDeep plan.nesting (Frame.body (readable peer.incoming)) :=
    fun ⟨inner, hdeep⟩ =>
      hkept (.tooDeep inner) ⟨hdelivers, inner, rfl, hwhole, by rw [htype], hdeep⟩
  exact ⟨outcomes, outcomes_eq_ok_iff.mpr
    ⟨⟨frame, hframe⟩, hdelivers, Peer.reports_iff.mpr ⟨hwhole, htype, hspells, hshallow⟩⟩⟩

/-- Where there are outcomes, nothing broke down. -/
theorem not_breakdown_of_outcomes (h : plan.outcomes peer text = .ok outcomes) :
    ¬ plan.Unreachable peer ∧ ¬ plan.Breakdown peer ∧ peer.Spells outcomes := by
  obtain ⟨-, hdelivers, hreports⟩ := outcomes_eq_ok_iff.mp h
  obtain ⟨hreach, hsend⟩ := delivers_iff.mp hdelivers
  obtain ⟨hwhole, htype, ⟨values, hspells, hvalues⟩, -⟩ := Peer.reports_iff.mp hreports
  obtain ⟨hreachable, haccepted⟩ := reach_eq_ok_iff.mp hreach
  refine ⟨hreachable, fun hbreakdown => ?_, values, hspells, hvalues⟩
  cases hbreakdown with
  | refused hconnected hrefused => exact haccepted ⟨hconnected, _, hrefused⟩
  | unsent hunsent =>
      rw [hsend] at hunsent
      cases hunsent
  | shortHeader hshort => exact Nat.not_lt.mpr hwhole.header hshort
  | unmarked hmarked => exact hmarked hwhole.marked
  | shortBody hshort => exact Nat.not_lt.mpr hwhole.body hshort
  | otherType hother => exact hother htype
  | notJson hfault => exact hspells.not_malformed hfault
  | notList hvalue hlist => exact hlist values (hvalue.unique hspells)
  | badOutcome hlist hvalue hfaults =>
      obtain rfl := Datum.list.inj (hlist.unique hspells)
      obtain ⟨o, hvalid⟩ := exists_of_mapM_ok (mapM_eq_ok_iff.mpr hvalues) _ hvalue
      rw [hfaults] at hvalid
      cases hvalid

end ClientPlan

namespace Dispatch

/-- The result where the first command to fail comes behind some that did not and before others: how many
failed of how many, what is said of the first, and all outcomes. -/
def refusal (order : Order) (before : List Outcome) (first : Outcome) (after : List Outcome) :
    ServiceResult :=
  let outcomes := before ++ first :: after
  .failure "run" "COMMAND_FAILED"
    (toString (outcomes.countP fun o => !o.success) ++ " of " ++ toString outcomes.length ++
      " command(s) failed: " ++ first.complaint)
    [("command", .text order.text), ("outcomes", .list (outcomes.map Outcome.datum))]

/-- What becomes of an order that is sent to a peer. -/
inductive Answers (order : Order) (plan : ClientPlan) (peer : Peer) : ServiceResult → Prop where
  | noSocket {fault : IpcFault} : plan.Unreachable peer →
      plan.outcomes peer order.text.toUTF8.toList = .error fault →
      Answers order plan peer (.failure "run" "NO_SOCKET" fault.message [])
  | ipcError {fault : IpcFault} : ¬ plan.Unreachable peer → plan.Breakdown peer →
      plan.outcomes peer order.text.toUTF8.toList = .error fault →
      Answers order plan peer
        (.failure "run" "IPC_ERROR" fault.message [("command", .text order.text)])
  | commandFailed {before after : List Outcome} {first : Outcome} : ¬ plan.Unreachable peer →
      ¬ plan.Breakdown peer → peer.Spells (before ++ first :: after) →
      (∀ o ∈ before, o.success = true) → first.success = false →
      Answers order plan peer (refusal order before first after)
  | done {outcomes : List Outcome} : ¬ plan.Unreachable peer → ¬ plan.Breakdown peer →
      peer.Spells outcomes → (∀ o ∈ outcomes, o.success = true) →
      Answers order plan peer (certificate order outcomes)

/-- What becomes of an order, sent or not. -/
inductive Ends (order : Order) (dryRun : Bool) (plan : ClientPlan) (peer : Peer) :
    ServiceResult → Prop where
  | empty : order.count = 0 →
      Ends order dryRun plan peer (.failure "run" "EMPTY_COMMAND" "No commands to run" [])
  | dry : order.count ≠ 0 → dryRun = true →
      Ends order dryRun plan peer (.success "run"
        [("command", .text order.text), ("count", .int order.count), ("dry_run", .flag true)])
  | sent {r : ServiceResult} : order.count ≠ 0 → dryRun = false → Answers order plan peer r →
      Ends order dryRun plan peer r

section

variable {order : Order} {plan : ClientPlan} {peer : Peer} {r : ServiceResult} {frame : List UInt8}

/-- What is said of failed commands is what is said of the first. -/
theorem refused_cons (order : Order) (outcomes : List Outcome) (first : Outcome) (rest : List Outcome) :
    refused order outcomes (first :: rest) = .failure "run" "COMMAND_FAILED"
      (toString (first :: rest).length ++ " of " ++ toString outcomes.length ++
        " command(s) failed: " ++ first.complaint)
      [("command", .text order.text), ("outcomes", .list (outcomes.map Outcome.datum))] := by
  unfold refused Outcome.complaint
  rw [List.head?_cons, Option.bind_some]
  cases first.error with
  | none => rfl
  | some text => cases hempty : text.isEmpty <;> simp [Option.filter, hempty]

theorem reported_of_failed {before after : List Outcome} {first : Outcome}
    (hbefore : ∀ o ∈ before, o.success = true) (hfirst : first.success = false) :
    reported order (before ++ first :: after) = refusal order before first after := by
  have hnone : (before.filter fun o => !o.success) = [] := by simpa using hbefore
  have hfailed : ((before ++ first :: after).filter fun o => !o.success) =
      first :: after.filter fun o => !o.success := by
    simp [hnone, hfirst]
  simp only [reported, refusal, List.countP_eq_length_filter, hfailed, List.isEmpty_cons,
    Bool.false_eq_true, if_false, refused_cons]

/-- An order that is sent is answered by what the peer spells, or by why there is nothing of that, unless
its visit hands a fault on. -/
theorem answers_verdict (hframe : Frame.pack runCommandType order.text.toUTF8.toList = .ok frame)
    (hkept : ∀ fault, ¬ plan.HandsOn peer runCommandType fault) :
    Answers order plan peer (verdict order (plan.outcomes peer order.text.toUTF8.toList)) := by
  cases houtcomes : plan.outcomes peer order.text.toUTF8.toList with
  | error fault =>
      have hnoSocket := ClientPlan.isNoSocket_of_outcomes hframe houtcomes
      by_cases hreachable : plan.Unreachable peer
      · simp only [verdict, Served.verdict, failed, hnoSocket.mpr hreachable, if_true]
        exact .noSocket hreachable houtcomes
      · have hbreakdown : plan.Breakdown peer := by
          by_contra hsteady
          obtain ⟨outcomes, hanswered⟩ :=
            ClientPlan.outcomes_of_not_breakdown hframe hreachable hsteady hkept
          rw [hanswered] at houtcomes
          cases houtcomes
        simp only [verdict, Served.verdict, failed, mt hnoSocket.mp hreachable]
        exact .ipcError hreachable hbreakdown houtcomes
  | ok outcomes =>
      obtain ⟨hreachable, hsteady, hspells⟩ := ClientPlan.not_breakdown_of_outcomes houtcomes
      cases hfind : outcomes.find? fun o => !o.success with
      | none =>
          have hsuccess : ∀ o ∈ outcomes, o.success = true := by simpa using hfind
          simp only [verdict, Served.verdict, reported_of_success hsuccess]
          exact .done hreachable hsteady hspells hsuccess
      | some first =>
          obtain ⟨hfirst, before, after, rfl, hbefore⟩ := List.find?_eq_some_iff_append.mp hfind
          have hfailed : first.success = false := by simpa using hfirst
          have hsuccess : ∀ o ∈ before, o.success = true := by simpa using hbefore
          simp only [verdict, Served.verdict, reported_of_failed hsuccess hfailed]
          exact .commandFailed hreachable hsteady hspells hsuccess hfailed

namespace Answers

variable (h : Answers order plan peer r)

include h

theorem noSocket_iff : r.code? = some "NO_SOCKET" ↔ plan.Unreachable peer := by
  cases h with
  | noSocket hreachable _ => simp [hreachable]
  | ipcError hreachable _ _ => simp [hreachable]
  | commandFailed hreachable _ _ _ _ => simp [refusal, hreachable]
  | done hreachable _ _ _ => simp [certificate, hreachable]

theorem ipcError_iff : r.code? = some "IPC_ERROR" ↔ ¬ plan.Unreachable peer ∧ plan.Breakdown peer := by
  cases h with
  | noSocket hreachable _ => simp [hreachable]
  | ipcError hreachable hbreakdown _ => simp [hreachable, hbreakdown]
  | commandFailed _ hsteady _ _ _ => simp [refusal, hsteady]
  | done _ hsteady _ _ => simp [certificate, hsteady]

theorem commandFailed_iff : r.code? = some "COMMAND_FAILED" ↔ ¬ plan.Unreachable peer ∧
    ¬ plan.Breakdown peer ∧ ∃ outcomes, peer.Spells outcomes ∧ ∃ o ∈ outcomes, o.success = false := by
  cases h with
  | noSocket hreachable _ => simp [hreachable]
  | ipcError _ hbreakdown _ => simp [hbreakdown]
  | commandFailed hreachable hsteady hspells _ hfailed =>
      exact iff_of_true rfl ⟨hreachable, hsteady, _, hspells, _, by simp, hfailed⟩
  | done _ _ hspells hsuccess =>
      refine iff_of_false (by simp [certificate]) ?_
      rintro ⟨-, -, outcomes, hothers, o, ho, hfailed⟩
      obtain rfl := hspells.unique hothers
      rw [hsuccess o ho] at hfailed
      cases hfailed

theorem ok_iff : r.ok = true ↔ ¬ plan.Unreachable peer ∧
    ¬ plan.Breakdown peer ∧ ∃ outcomes, peer.Spells outcomes ∧ ∀ o ∈ outcomes, o.success = true := by
  cases h with
  | noSocket hreachable _ => simp [hreachable]
  | ipcError _ hbreakdown _ => simp [hbreakdown]
  | commandFailed _ _ hspells _ hfailed =>
      refine iff_of_false (by simp [refusal]) ?_
      rintro ⟨-, -, outcomes, hothers, hsuccess⟩
      obtain rfl := hspells.unique hothers
      rw [hsuccess _ (by simp)] at hfailed
      cases hfailed
  | done hreachable hsteady hspells hsuccess =>
      exact iff_of_true rfl ⟨hreachable, hsteady, _, hspells, hsuccess⟩

theorem code?_ne_empty : r.code? ≠ some "EMPTY_COMMAND" := by
  cases h <;> simp [refusal, certificate]

end Answers

namespace Ends

variable {dryRun : Bool} (h : Ends order dryRun plan peer r)

include h

theorem empty_iff : r.code? = some "EMPTY_COMMAND" ↔ order.count = 0 := by
  cases h with
  | empty hcount => simp [hcount]
  | dry hcount _ => simp [hcount]
  | sent hcount _ hanswers => exact iff_of_false hanswers.code?_ne_empty hcount

/-- Any other code is that of an order that is sent. -/
theorem code?_iff {code : String} {p : Prop} (hcode : code ≠ "EMPTY_COMMAND")
    (hp : Answers order plan peer r → (r.code? = some code ↔ p)) :
    r.code? = some code ↔ order.count ≠ 0 ∧ dryRun = false ∧ p := by
  cases h with
  | empty hcount => simp [hcount, hcode.symm]
  | dry _ hdry => simp [hdry]
  | sent hcount hsending hanswers => simp [hcount, hsending, hp hanswers]

theorem ok_iff : r.ok = true ↔ order.count ≠ 0 ∧ (dryRun = true ∨ ¬ plan.Unreachable peer ∧
    ¬ plan.Breakdown peer ∧ ∃ outcomes, peer.Spells outcomes ∧ ∀ o ∈ outcomes, o.success = true) := by
  cases h with
  | empty hcount => simp [hcount]
  | dry hcount hdry => simp [hcount, hdry]
  | sent hcount hsending hanswers => simp [hcount, hsending, hanswers.ok_iff]

end Ends

/-- A run that ends in a result ends in one of these ways. -/
theorem ends_run {dryRun : Bool} {plan : ClientPlan} {peers : List Peer} {r : ServiceResult}
    (hframe : order.count ≠ 0 → dryRun = false →
      ∃ frame, Frame.pack runCommandType order.text.toUTF8.toList = .ok frame)
    (h : (run order dryRun plan peers).result = .ok r) :
    Ends order dryRun plan (Peer.first peers) r := by
  by_cases hcount : order.count = 0
  · rw [run_empty hcount] at h
    cases h
    exact .empty hcount
  cases dryRun with
  | true =>
      rw [run_dry hcount] at h
      cases h
      exact .dry hcount rfl
  | false =>
      obtain ⟨frame, hframe⟩ := hframe hcount rfl
      have hkept : ∀ fault, ¬ plan.HandsOn (Peer.first peers) runCommandType fault := by
        intro fault hfault
        rw [(run_eq_error_iff hcount hframe).mpr hfault] at h
        cases h
      rw [eq_verdict_of_run hcount h]
      exact .sent hcount rfl (answers_verdict hframe hkept)

end

/-- What the result of running a batch tells: an error by its code, or success. -/
structure Classified (b : Batch) (dryRun : Bool) (plan : ClientPlan) (peer : Peer)
    (r : ServiceResult) : Prop where
  empty_iff : r.code? = some "EMPTY_COMMAND" ↔ b.commands = []
  noSocket_iff : r.code? = some "NO_SOCKET" ↔
    b.commands ≠ [] ∧ dryRun = false ∧ plan.Unreachable peer
  ipcError_iff : r.code? = some "IPC_ERROR" ↔
    b.commands ≠ [] ∧ dryRun = false ∧ ¬ plan.Unreachable peer ∧ plan.Breakdown peer
  commandFailed_iff : r.code? = some "COMMAND_FAILED" ↔
    b.commands ≠ [] ∧ dryRun = false ∧ ¬ plan.Unreachable peer ∧ ¬ plan.Breakdown peer ∧
      ∃ outcomes, peer.Spells outcomes ∧ ∃ o ∈ outcomes, o.success = false
  ok_iff : r.ok = true ↔
    b.commands ≠ [] ∧ (dryRun = true ∨ ¬ plan.Unreachable peer ∧ ¬ plan.Breakdown peer ∧
      ∃ outcomes, peer.Spells outcomes ∧ ∀ o ∈ outcomes, o.success = true)

theorem Ends.classified {b : Batch} {normalize dryRun : Bool} {plan : ClientPlan} {peer : Peer}
    {r : ServiceResult} (h : Ends (b.order normalize) dryRun plan peer r) :
    Classified b dryRun plan peer r := by
  have hcount : (b.order normalize).count = 0 ↔ b.commands = [] := List.length_eq_zero_iff
  exact
    { empty_iff := h.empty_iff.trans hcount
      noSocket_iff := by simpa [hcount] using h.code?_iff (by decide) Answers.noSocket_iff
      ipcError_iff := by simpa [hcount] using h.code?_iff (by decide) Answers.ipcError_iff
      commandFailed_iff := by simpa [hcount] using h.code?_iff (by decide) Answers.commandFailed_iff
      ok_iff := by simpa [hcount] using h.ok_iff }

end Dispatch

/-- How a run of a batch ends is decided in this order: a batch without commands, a dry run, a client that
finds no socket, an exchange that breaks down, a command that failed, and success. Of the outcomes that the
reply spells none is left out. The one run that ends in no result is that whose visit hands a fault on,
because the reply nests deeper than its reader goes, whatever it spells. -/
theorem run_classified (b : Batch) (normalize dryRun : Bool) (plan : ClientPlan) (peers : List Peer)
    (hsent : b.commands ≠ [] → dryRun = false →
      (b.order normalize).text.utf8ByteSize < Frame.wordBound) :
    (∀ r, (Dispatch.run (b.order normalize) dryRun plan peers).result = .ok r →
      Dispatch.Ends (b.order normalize) dryRun plan (Peer.first peers) r ∧
      Dispatch.Classified b dryRun plan (Peer.first peers) r) ∧
    (∀ fault, (Dispatch.run (b.order normalize) dryRun plan peers).result = .error fault ↔
      b.commands ≠ [] ∧ dryRun = false ∧ plan.HandsOn (Peer.first peers) runCommandType fault) ∧
    (b.commands = [] ∨ dryRun = true →
      (Dispatch.run (b.order normalize) dryRun plan peers).sockets = [] ∧
        (Dispatch.run (b.order normalize) dryRun plan peers).events = []) := by
  have hcount : (b.order normalize).count = 0 ↔ b.commands = [] := List.length_eq_zero_iff
  have hframe (hne : b.commands ≠ []) (hsending : dryRun = false) := Frame.pack_text (hsent hne hsending)
  refine ⟨fun r hrun => ?_, fun fault => ?_, fun hidle => ?_⟩
  · have hends := Dispatch.ends_run (fun hne => hframe (mt hcount.mpr hne)) hrun
    exact ⟨hends, hends.classified⟩
  · by_cases hidle : b.commands = [] ∨ dryRun = true
    · obtain ⟨result, -, hrun⟩ := Dispatch.run_idle (hidle.imp_left hcount.mpr)
      rw [hrun plan peers]
      refine iff_of_false nofun ?_
      rintro ⟨hne, hsending, -⟩
      exact absurd hidle (by simp [hne, hsending])
    · obtain ⟨hne, hdry⟩ := not_or.mp hidle
      obtain rfl := Bool.eq_false_of_not_eq_true hdry
      obtain ⟨frame, hframe⟩ := hframe hne rfl
      rw [Dispatch.run_eq_error_iff (mt hcount.mp hne) hframe]
      exact ⟨fun h => ⟨hne, rfl, h⟩, fun h => h.2.2⟩
  · obtain ⟨result, -, hrun⟩ := Dispatch.run_idle (hidle.imp_left hcount.mpr)
    rw [hrun plan peers]
    exact ⟨rfl, rfl⟩

/-- A peer that ran one command and reports the other as failed. -/
def halfDonePeer : Peer :=
  let body := "[\x7b\"success\":true\x7d,\x7b\"success\":false\x7d]".toUTF8.toList
  ⟨.accepted, none, [.chunk (Frame.headerBytes body.length 0), .chunk body]⟩

theorem halfDonePeer_reports :
    halfDonePeer.Reports Json.usualNesting [⟨true, none, false⟩, ⟨false, none, false⟩] := by
  have hanswer : (readReply Json.usualNesting runCommandType halfDonePeer.incoming >>=
      Exchange.readOutcomeReply).toOption = some [⟨true, none, false⟩, ⟨false, none, false⟩] := by
    decide +kernel
  obtain ⟨value, hreply, houtcomes⟩ := bind_eq_ok.mp (toOption_eq_some.mp hanswer)
  obtain ⟨values, rfl, hread⟩ := Exchange.readOutcomeReply_eq_ok_iff.mp houtcomes
  exact ⟨values, hreply, hread⟩

theorem pairBatch_half_done :
    (pairBatch.order false).text.utf8ByteSize < Frame.wordBound ∧
      ∃ r, (Dispatch.run (pairBatch.order false) false pathPlan [halfDonePeer]).result = .ok r ∧
        r.code? = some "COMMAND_FAILED" := by
  have hsize : (pairBatch.order false).text.utf8ByteSize < Frame.wordBound := by decide
  have hdelivers : pathPlan.delivers halfDonePeer = true :=
    ClientPlan.delivers_accepted (by decide) rfl rfl
  have houtcomes : pathPlan.outcomes halfDonePeer (pairBatch.order false).text.toUTF8.toList = .ok _ :=
    ClientPlan.outcomes_eq_ok_iff.mpr ⟨Frame.pack_text hsize, hdelivers, halfDonePeer_reports⟩
  have hrun : (Dispatch.run (pairBatch.order false) false pathPlan [halfDonePeer]).result = .ok _ :=
    (Dispatch.result_run (by decide) pathPlan [halfDonePeer]).trans
      (congrArg (Served.ending _ _) houtcomes)
  obtain ⟨hends, -⟩ := run_classified pairBatch false false pathPlan [halfDonePeer] fun _ _ => hsize
  obtain ⟨-, hclassified⟩ := hends _ hrun
  obtain ⟨hreachable, hsteady, hspells⟩ := ClientPlan.not_breakdown_of_outcomes houtcomes
  have hcode := hclassified.commandFailed_iff.mpr
    ⟨List.cons_ne_nil _ _, rfl, hreachable, hsteady, _, hspells, ⟨false, none, false⟩, by simp, rfl⟩
  exact ⟨hsize, _, hrun, hcode⟩

/-- A reply that opens twelve thousand lists is no JSON, and yet the run does not end in the result of an
exchange that broke down: it ends in none. -/
theorem opened_reply_unclassified :
    (pairBatch.order false).text.utf8ByteSize < Frame.wordBound ∧ pairBatch.commands ≠ [] ∧
      ¬ pathPlan.Unreachable (Peer.opening runCommandType 12000) ∧
      (∃ fault, Json.Malformed
        (Frame.body (readable (Peer.opening runCommandType 12000).incoming)) fault) ∧
      ¬ ∃ r, (Dispatch.run (pairBatch.order false) false pathPlan
        [Peer.opening runCommandType 12000]).result = .ok r ∧ r.code? = some "IPC_ERROR" := by
  have hsize : (pairBatch.order false).text.utf8ByteSize < Frame.wordBound := by decide
  obtain ⟨frame, hframe⟩ := Frame.pack_text hsize
  have hhanded : pathPlan.HandsOn (Peer.opening runCommandType 12000) runCommandType (.tooDeep .list) :=
    ClientPlan.handsOn_opening (by decide) (by decide) (by decide) (by decide)
  have hescapes : (Dispatch.run (pairBatch.order false) false pathPlan
      [Peer.opening runCommandType 12000]).result = .error (.tooDeep .list) :=
    (Dispatch.run_eq_error_iff (by decide) hframe).mpr hhanded
  have hreachable := (ClientPlan.reach_eq_ok_iff.mp (ClientPlan.delivers_iff.mp hhanded.1).1).1
  have hbody : Frame.body (readable (Peer.opening runCommandType 12000).incoming) =
      Json.openings 12000 :=
    (Peer.readable_opening (by decide) (by decide)).2.2
  refine ⟨hsize, List.cons_ne_nil _ _, hreachable, ?_, ?_⟩
  · rw [hbody]
    exact ⟨_, Json.malformed_openings 12000⟩
  · rintro ⟨r, hr, -⟩
    rw [hescapes] at hr
    cases hr

end SwayControl
