import SwayControl.Proofs.Service.Containment
import Mathlib.Data.List.Basic

/-!
What a run that went well certifies: every outcome that was reported, and nothing of how many there
were. A reply that is short of outcomes, or has none, passes for one where every command succeeded.
-/

namespace SwayControl

namespace Peer

/-- A peer replies with a list of values that are these outcomes, and the reader goes deep enough. -/
def Reports (peer : Peer) (nesting : Nat) (outcomes : List Outcome) : Prop :=
  ∃ values, readReply nesting runCommandType peer.incoming = .ok (.list values) ∧
    readOutcomes values = .ok outcomes

variable {peer : Peer} {nesting : Nat} {outcomes others : List Outcome}

theorem Reports.unique (h : peer.Reports nesting outcomes) (hothers : peer.Reports nesting others) :
    outcomes = others := by
  obtain ⟨values, hreply, hread⟩ := h
  obtain ⟨values', hreply', hread'⟩ := hothers
  rw [hreply] at hreply'
  cases hreply'
  rw [hread] at hread'
  cases hread'
  rfl

/-- What is reported is the list in the frame in front of the stream, value for value. -/
theorem Reports.reply (h : peer.Reports nesting outcomes) :
    ∃ body frame rest values, Frame.pack runCommandType body = .ok frame ∧
      stream peer.incoming = frame ++ rest ∧ Json.read nesting body = .ok (.list values) ∧
      values.length = outcomes.length ∧ readOutcomes values = .ok outcomes := by
  obtain ⟨values, hreply, hread⟩ := h
  obtain ⟨body, frame, rest, hframe, hstream, hjson⟩ := readReply_eq_ok hreply
  exact ⟨body, frame, rest, values, hframe, hstream, hjson, (mapM_ok_length hread).symm, hread⟩

/-- A peer whose reply is an empty list, whatever it is sent. -/
def emptyHanded : Peer := ⟨.accepted, none, [.chunk (Frame.headerBytes 2 0 ++ [0x5B, 0x5D])]⟩

theorem emptyHanded_reports (nesting : Nat) : emptyHanded.Reports nesting [] := by
  have hbody : Json.read nesting [0x5B, 0x5D] = .ok (.list []) := by cbv
  have hframe : readFrame emptyHanded.incoming = .ok (⟨2, 0⟩, [0x5B, 0x5D]) := by rfl
  refine ⟨[], ?_, rfl⟩
  unfold readReply
  rw [hframe]
  simp only [bind, Except.bind, hbody]
  rfl

end Peer

theorem Exchange.readOutcomeReply_eq_ok_iff {value : Datum} {outcomes : List Outcome} :
    readOutcomeReply value = .ok outcomes ↔
      ∃ values, value = .list values ∧ readOutcomes values = .ok outcomes := by
  cases value <;> simp [readOutcomeReply, mapError_eq_ok]

namespace ClientPlan

variable {plan : ClientPlan} {peer : Peer} {text : List UInt8} {outcomes : List Outcome}

/-- Outcomes are answered where a message with a frame reaches a peer that reports them. -/
theorem outcomes_eq_ok_iff : plan.outcomes peer text = .ok outcomes ↔
    (∃ frame, Frame.pack runCommandType text = .ok frame) ∧ plan.delivers peer = true ∧
      peer.Reports plan.nesting outcomes := by
  unfold ClientPlan.outcomes asked Peer.answer delivers
  cases plan.reach peer with
  | error fault => simp [bind, Except.bind]
  | ok _ =>
      cases peer.sendFailure with
      | some reason => simp [bind_eq_ok, mapError_eq_ok, throw, throwThe, MonadExceptOf.throw]
      | none =>
          simp only [bind_eq_ok, mapError_eq_ok, Exchange.readOutcomeReply_eq_ok_iff, Peer.Reports]
          constructor
          · rintro ⟨-, -, _, ⟨frame, hframe, hreply⟩, values, rfl, hread⟩
            exact ⟨⟨frame, hframe⟩, rfl, values, hreply, hread⟩
          · rintro ⟨⟨frame, hframe⟩, -, values, hreply, hread⟩
            exact ⟨(), trivial, _, ⟨frame, hframe, hreply⟩, values, rfl, hread⟩

/-- A peer that a message would reach is not asked to run one without a frame. -/
theorem outcomes_unframable {fault : Frame.PackFault}
    (hpack : Frame.pack runCommandType text = .error fault) (hdelivers : plan.delivers peer = true) :
    plan.outcomes peer text = .error (.unframable fault) := by
  unfold delivers at hdelivers
  unfold ClientPlan.outcomes asked Peer.answer
  cases hreach : plan.reach peer with
  | error other => simp [hreach] at hdelivers
  | ok _ =>
      rw [hpack]
      rfl

end ClientPlan

namespace Dispatch

/-- The result that certifies outcomes. -/
def certificate (order : Order) (outcomes : List Outcome) : ServiceResult :=
  .success "run" [("command", .text order.text), ("count", .int order.count),
    ("outcomes", .list (outcomes.map Outcome.datum))]

theorem reported_of_success {order : Order} {outcomes : List Outcome}
    (h : ∀ o ∈ outcomes, o.success = true) :
    reported order outcomes = certificate order outcomes := by
  have hfailed : (outcomes.filter fun o => !o.success) = [] := by simpa using h
  simp only [reported, hfailed, List.isEmpty_nil, if_true]
  rfl

/-- A verdict is good if what is answered are outcomes without a failed one among them. -/
theorem verdict_ok_iff {order : Order} {answered : Except IpcFault (List Outcome)} :
    (verdict order answered).ok = true ↔
      ∃ outcomes, answered = .ok outcomes ∧ ∀ o ∈ outcomes, o.success = true := by
  cases answered with
  | error fault =>
      simp only [verdict, Served.verdict, failed]
      split <;> simp [ServiceResult.failure]
  | ok outcomes =>
      simp only [Except.ok.injEq, exists_eq_left', verdict, Served.verdict, reported]
      split
      · rename_i hnone
        exact iff_of_true rfl (by simpa using hnone)
      · rename_i hsome
        exact iff_of_false Bool.false_ne_true (by simpa using hsome)

variable {order : Order} {plan : ClientPlan} {peers : List Peer} {r : ServiceResult}

/-- What is run to a result and would reach its peer has a frame. -/
theorem framed_of_run (hcount : order.count ≠ 0)
    (h : (run order false plan peers).result = .ok r)
    (hdelivers : plan.delivers (Peer.first peers) = true) :
    ∃ frame, Frame.pack runCommandType order.text.toUTF8.toList = .ok frame := by
  cases hpack : Frame.pack runCommandType order.text.toUTF8.toList with
  | ok frame => exact ⟨frame, rfl⟩
  | error fault =>
      have hanswered := ClientPlan.outcomes_unframable hpack hdelivers
      have hescapes : (run order false plan peers).result = .error (.unframable fault) :=
        (result_run hcount plan peers).trans (Served.ending_eq_error_iff.mpr ⟨_, hanswered, rfl⟩)
      rw [h] at hescapes
      cases hescapes

/-- A run of commands goes well just where they reach a peer that reports no failed outcome. -/
theorem ok_iff_of_run (hcount : order.count ≠ 0) (h : (run order false plan peers).result = .ok r) :
    r.ok = true ↔ plan.delivers (Peer.first peers) = true ∧
      ∃ outcomes, (Peer.first peers).Reports plan.nesting outcomes ∧
        ∀ o ∈ outcomes, o.success = true := by
  rw [eq_verdict_of_run hcount h, verdict_ok_iff]
  simp only [ClientPlan.outcomes_eq_ok_iff]
  constructor
  · rintro ⟨outcomes, ⟨-, hdelivers, hreports⟩, hsuccess⟩
    exact ⟨hdelivers, outcomes, hreports, hsuccess⟩
  · rintro ⟨hdelivers, outcomes, hreports, hsuccess⟩
    exact ⟨outcomes, ⟨framed_of_run hcount h hdelivers, hdelivers, hreports⟩, hsuccess⟩

theorem result_of_ok_run (hcount : order.count ≠ 0) (h : (run order false plan peers).result = .ok r)
    (hok : r.ok = true) {outcomes : List Outcome}
    (hreports : (Peer.first peers).Reports plan.nesting outcomes) : r = certificate order outcomes := by
  obtain ⟨hdelivers, found, hfound, hsuccess⟩ := (ok_iff_of_run hcount h).mp hok
  obtain rfl := hreports.unique hfound
  have hanswered : plan.outcomes (Peer.first peers) order.text.toUTF8.toList = .ok outcomes :=
    ClientPlan.outcomes_eq_ok_iff.mpr ⟨framed_of_run hcount h hdelivers, hdelivers, hreports⟩
  rw [eq_verdict_of_run hcount h, hanswered]
  exact reported_of_success hsuccess

/-- Every order is certified by a peer that reports nothing at all. -/
theorem run_emptyHanded (hcount : order.count ≠ 0)
    (hsize : order.text.utf8ByteSize < Frame.wordBound) (hstranded : plan.isStranded = false) :
    (run order false plan [Peer.emptyHanded]).result = .ok (certificate order []) := by
  have hanswered : plan.outcomes Peer.emptyHanded order.text.toUTF8.toList = .ok [] :=
    ClientPlan.outcomes_eq_ok_iff.mpr ⟨Frame.pack_text hsize,
      ClientPlan.delivers_accepted hstranded rfl rfl, Peer.emptyHanded_reports plan.nesting⟩
  have hreported : reported order [] = certificate order [] :=
    reported_of_success (List.forall_mem_nil _)
  rw [result_run hcount]
  change Served.ending _ _ (plan.outcomes Peer.emptyHanded order.text.toUTF8.toList) = _
  rw [hanswered, ← hreported]
  rfl

end Dispatch

/-- A run goes well just where its commands reach a peer that reports no failed outcome. It then
certifies every outcome, each read from one value of the list in the reply. How many there are is
not compared with the commands: where the reply is an empty list, any batch passes for run. -/
theorem ok_run_certifies_reply {b : Batch} (hne : b.commands ≠ []) (normalize : Bool)
    (plan : ClientPlan) (peers : List Peer) :
    (∀ r, (Dispatch.run (b.order normalize) false plan peers).result = .ok r →
      (r.ok = true ↔ plan.delivers (Peer.first peers) = true ∧
        ∃ outcomes, (Peer.first peers).Reports plan.nesting outcomes ∧
          ∀ o ∈ outcomes, o.success = true) ∧
      ∀ outcomes, (Peer.first peers).Reports plan.nesting outcomes → r.ok = true →
        r = Dispatch.certificate (b.order normalize) outcomes ∧
        ∃ body frame rest values, Frame.pack runCommandType body = .ok frame ∧
          stream (Peer.first peers).incoming = frame ++ rest ∧
          Json.read plan.nesting body = .ok (.list values) ∧ values.length = outcomes.length ∧
          readOutcomes values = .ok outcomes) ∧
    ((b.order normalize).text.utf8ByteSize < Frame.wordBound → plan.isStranded = false →
      (Dispatch.run (b.order normalize) false plan [Peer.emptyHanded]).result =
        .ok (Dispatch.certificate (b.order normalize) [])) := by
  have hcount : (b.order normalize).count ≠ 0 := mt List.length_eq_zero_iff.mp hne
  constructor
  · intro r hrun
    exact ⟨Dispatch.ok_iff_of_run hcount hrun,
      fun _ hreports hok => ⟨Dispatch.result_of_ok_run hcount hrun hok hreports, hreports.reply⟩⟩
  · exact Dispatch.run_emptyHanded hcount

/-- A batch of two commands. -/
def pairBatch : Batch :=
  ⟨[.record .raw [.text "kill"], .record .raw [.text "reload"]], "kill;reload"⟩

theorem pairBatch_certified :
    pairBatch.commands ≠ [] ∧
      (Dispatch.run (pairBatch.order false) false pathPlan [Peer.emptyHanded]).result =
        .ok (Dispatch.certificate (pairBatch.order false) []) ∧
      pathPlan.delivers Peer.emptyHanded = true := by
  have hne : pairBatch.commands ≠ [] := List.cons_ne_nil _ _
  obtain ⟨hruns, hempty⟩ := ok_run_certifies_reply hne false pathPlan [Peer.emptyHanded]
  have hrun := hempty (by decide) (by decide)
  exact ⟨hne, hrun, ((hruns _ hrun).1.mp rfl).1⟩

/-- Two commands pass for run where the reply has not one outcome. -/
theorem pairBatch_uncertified :
    ∃ r, (Dispatch.run (pairBatch.order false) false pathPlan [Peer.emptyHanded]).result = .ok r ∧
      r.ok = true ∧ ∀ outcomes, Peer.emptyHanded.Reports pathPlan.nesting outcomes →
        outcomes.length < pairBatch.commands.length := by
  have hstranded : pathPlan.isStranded = false := by decide
  refine ⟨_, Dispatch.run_emptyHanded (by decide) (by decide) hstranded, rfl, fun outcomes h => ?_⟩
  rw [h.unique (Peer.emptyHanded_reports _)]
  decide

end SwayControl
