import SwayControl.Proofs.Ipc.Call
import Mathlib.Data.List.Forall2

/-!
Which reply a call answers to. While no read fails each call takes the frame that answers it and no
more. A call whose read fails leaves the rest of its reply in the stream, and the connection stays open:
the call after it starts at that rest and not at its own reply.
-/

namespace SwayControl

/-- Faults of reading bytes, as opposed to faults of what was read. -/
def IpcFault.OfReading : IpcFault → Prop
  | .transport _ | .ended .. => True
  | _ => False

theorem Call.decode_not_reading {c : Call} {nesting : Nat} {body : List UInt8} {fault : IpcFault}
    (h : c.decode nesting body = .error fault) : ¬ fault.OfReading := by
  unfold Call.decode at h
  cases hbody : Json.read nesting body with
  | error unread =>
      rw [hbody] at h
      cases h
      cases unread <;> exact not_false
  | ok value =>
      rw [hbody] at h
      simp only [Except.mapError, Except.bind] at h
      unfold Call.read at h
      split at h
      · cases h
      · rename_i values
        cases houtcomes : readOutcomes values <;> rw [houtcomes] at h <;> cases h
        exact not_false
      all_goals
        cases h <;> exact not_false

/-- What a call makes of its own reply is never a fault of reading. -/
theorem Turn.result_not_reading {nesting : Nat} {t : Turn} {fault : IpcFault}
    (h : t.result nesting = .error fault) : ¬ fault.OfReading := by
  unfold Turn.result at h
  split at h
  · exact Call.decode_not_reading h
  · cases h
    exact not_false

namespace Link

variable {l : Link} {i : Nat} {t : Turn} {turns : List Turn} {frame : List UInt8}
  {frames : List (List UInt8)}

/-- A connected client whose socket has to be read the replies to the calls of turns, one after another,
cut into chunks that are not empty, with reads that fail anywhere among them. -/
structure Served (l : Link) (i : Nat) (turns : List Turn) (frames : List (List UInt8)) : Prop where
  connected : l.Connected i
  replied : List.Forall₂ Turn.Replied turns frames
  unread : l.unread i = frames.flatten

/-- A call that finds the reply of a turn in front takes it and answers to it, or a read fails and a part
of that reply is left in front. -/
theorem Connected.answer_replied (h : l.Connected i) (hreply : t.Replied frame)
    {rest : List UInt8} (hunread : l.unread i = frame ++ rest) :
    ((l.answer t.call).1 = t.result l.client.nesting ∧ (l.answer t.call).2.unread i = rest) ∨
      ∃ reason tail, (l.answer t.call).1 = .error (.transport reason) ∧ tail ≠ [] ∧
        tail <:+ frame ∧ (l.answer t.call).2.unread i = tail ++ rest := by
  have hdelivered := (h.deliver t.call.message).lt
  have htracks := h.tracks_answer t.call
  rw [hunread, hreply.decoding] at htracks
  generalize l.answer t.call = after at htracks
  generalize hplanned : (t.result l.client.nesting, rest) = planned at htracks
  cases htracks with
  | @alike result left events hfailures hleft =>
      obtain ⟨rfl, hrest⟩ := Prod.mk.inj hplanned
      refine .inl ⟨rfl, ?_⟩
      rw [Link.unread, pending_leave hdelivered, hrest]
  | @cut result rest reason left events taken tail htail hstream hrest hfailures hleft =>
      obtain ⟨rfl, rfl⟩ := Prod.mk.inj hplanned
      have htail : tail ≠ [] := fun hnil => by
        obtain ⟨remaining, size, hended⟩ := htail hnil
        exact Turn.result_not_reading hended trivial
      have hwhole : taken ++ tail = frame := by
        rw [pending_deliver] at hstream
        rw [Link.unread, hstream] at hunread
        exact List.append_cancel_right hunread
      refine .inr ⟨reason, tail, rfl, htail, ⟨taken, hwhole⟩, ?_⟩
      rw [Link.unread, pending_leave hdelivered, hrest]

/-- Calls whose read did not fail leave a client that is served the replies to the others. -/
theorem Served.answer (h : l.Served i (t :: turns) (frame :: frames)) :
    ((l.answer t.call).1 = t.result l.client.nesting ∧
        (l.answer t.call).2.Served i turns frames) ∨
      ∃ reason tail, (l.answer t.call).1 = .error (.transport reason) ∧ tail ≠ [] ∧
        tail <:+ frame ∧ (l.answer t.call).2.unread i = tail ++ frames.flatten := by
  obtain ⟨hreply, hreplies⟩ := List.forall₂_cons.mp h.replied
  rcases h.connected.answer_replied hreply h.unread with ⟨hresult, hunread⟩ | hcut
  · exact .inl ⟨hresult, h.connected.answer t.call, hreplies, hunread⟩
  · exact .inr hcut

/-- What the calls of turns answer, one after another. -/
def outcomes (l : Link) (turns : List Turn) : List (Except IpcFault Response) :=
  (l.answers (turns.map Turn.call)).1

/-- The link that a call of turns finds. -/
def before (l : Link) (turns : List Turn) (k : Nat) : Link :=
  (l.answers ((turns.take k).map Turn.call)).2

/-- A read of a call failed. -/
def ReadFails (l : Link) (turns : List Turn) (k : Nat) : Prop :=
  ∃ reason, (l.outcomes turns)[k]? = some (.error (.transport reason))

/-- A call answers to its own reply: that is what it finds in front and takes, and nothing else. -/
structure TakesOwn (l : Link) (i : Nat) (turns : List Turn) (frames : List (List UInt8))
    (k : Nat) : Prop where
  found : (l.before turns k).unread i = (frames.drop k).flatten
  left : (l.before turns (k + 1)).unread i = (frames.drop (k + 1)).flatten
  answered : (l.outcomes turns)[k]? = (turns.map (Turn.result l.client.nesting))[k]?

theorem outcomes_getElem? {k : Nat} (hk : turns[k]? = some t) :
    (l.outcomes turns)[k]? = some ((l.before turns k).answer t.call).1 := by
  induction turns generalizing l k with
  | nil => cases hk
  | cons first rest ih =>
      cases k with
      | zero =>
          cases hk
          rfl
      | succ k => exact ih hk

theorem before_succ {k : Nat} (hk : turns[k]? = some t) :
    l.before turns (k + 1) = ((l.before turns k).answer t.call).2 := by
  induction turns generalizing l k with
  | nil => cases hk
  | cons first rest ih =>
      cases k with
      | zero =>
          cases hk
          rfl
      | succ k => exact ih hk

theorem Served.client_before (h : l.Served i turns frames) (k : Nat) :
    (l.before turns k).client = l.client :=
  h.connected.client_answers _

/-- While no read fails, what is unread is the replies to the calls still to come. -/
theorem Served.before (h : l.Served i turns frames) {k : Nat} (hk : k ≤ turns.length)
    (hsteady : ∀ j < k, ¬ l.ReadFails turns j) :
    (l.before turns k).Served i (turns.drop k) (frames.drop k) := by
  induction k with
  | zero => exact h
  | succ k ih =>
      have hserved := ih (by omega) fun j hj => hsteady j (by omega)
      have hget : turns[k]? = some turns[k] := List.getElem?_eq_getElem hk
      have hlength : k < frames.length := h.replied.length_eq ▸ hk
      rw [List.drop_eq_getElem_cons hk, List.drop_eq_getElem_cons hlength] at hserved
      rw [before_succ hget]
      rcases hserved.answer with ⟨-, hnext⟩ | ⟨reason, -, hfailed, -⟩
      · exact hnext
      · refine absurd ⟨reason, ?_⟩ (hsteady k (by omega))
        rw [outcomes_getElem? hget, hfailed]

/-- The first call whose read fails leaves a part of its reply in front of the others; a call before it
takes its own. -/
theorem Served.takes_own_or_fails (h : l.Served i turns frames) {k : Nat} (hk : k < turns.length)
    (hsteady : ∀ j < k, ¬ l.ReadFails turns j) :
    (l.TakesOwn i turns frames k ∧ ¬ l.ReadFails turns k) ∨
      (l.ReadFails turns k ∧ ∃ frame tail, frames[k]? = some frame ∧ tail ≠ [] ∧ tail <:+ frame ∧
        (l.before turns (k + 1)).unread i = tail ++ (frames.drop (k + 1)).flatten) := by
  have hserved := h.before hk.le hsteady
  have hfound := hserved.unread
  have hget : turns[k]? = some turns[k] := List.getElem?_eq_getElem hk
  have hlength : k < frames.length := h.replied.length_eq ▸ hk
  rw [List.drop_eq_getElem_cons hk, List.drop_eq_getElem_cons hlength] at hserved
  rcases hserved.answer with ⟨hresult, hnext⟩ | ⟨reason, tail, hfailed, htail, hsuffix, hleft⟩
  · refine .inl ⟨⟨hfound, ?_, ?_⟩, ?_⟩
    · rw [before_succ hget, hnext.unread]
    · rw [outcomes_getElem? hget, hresult, List.getElem?_map, hget, h.client_before]
      rfl
    · rintro ⟨reason, hfailed⟩
      rw [outcomes_getElem? hget, hresult] at hfailed
      exact Turn.result_not_reading (Option.some.inj hfailed) trivial
  · refine .inr ⟨⟨reason, ?_⟩, _, tail, List.getElem?_eq_getElem hlength, htail, hsuffix, ?_⟩
    · rw [outcomes_getElem? hget, hfailed]
    · rw [before_succ hget, hleft]

/-- A value is that of the call's own reply as long as no earlier read failed; the value of a call right
after the first failed read never is. -/
theorem value_from_own_reply_iff (h : l.Served i turns frames) {k : Nat} {v : Response}
    (hvalue : (l.outcomes turns)[k]? = some (.ok v))
    (hearlier : ∀ j, j + 1 < k → ¬ l.ReadFails turns j) :
    l.TakesOwn i turns frames k ↔ ∀ j < k, ¬ l.ReadFails turns j := by
  have hk : k < turns.length := by
    have hlt := (List.getElem?_eq_some_iff.mp hvalue).1
    rwa [outcomes, length_answers, List.length_map] at hlt
  constructor
  · intro hown j hj hfails
    have hlast : j + 1 = k := by
      by_contra hne
      exact hearlier j (by omega) hfails
    subst hlast
    have hjk : j < turns.length := by omega
    rcases h.takes_own_or_fails hjk (fun m hm => hearlier m (by omega)) with
      ⟨-, hsteady⟩ | ⟨-, frame, tail, -, htail, -, hleft⟩
    · exact hsteady hfails
    · rw [hown.found] at hleft
      exact htail (List.self_eq_append_left.mp hleft)
  · intro hsteady
    rcases h.takes_own_or_fails hk hsteady with ⟨hown, -⟩ | ⟨⟨reason, hfailed⟩, -⟩
    · exact hown
    · rw [hvalue] at hfailed
      cases hfailed

/-- A reply none of which was read when its call failed is what the next call of its type takes for its
own, if its reads do not fail. -/
theorem late_reply_taken (h : l.Served i turns frames) {k : Nat} {late next : Turn}
    (hlate : turns[k]? = some late) (hnext : turns[k + 1]? = some next)
    (hsteady : ∀ j < k, ¬ l.ReadFails turns j) (hfails : l.ReadFails turns k)
    (huntouched : (l.before turns (k + 1)).unread i = (frames.drop k).flatten)
    (htype : next.call.type = late.call.type)
    (hframable : next.call.payload.length < Frame.wordBound)
    (hreads : ¬ l.ReadFails turns (k + 1)) :
    (l.outcomes turns)[k + 1]? = some (next.call.decode l.client.nesting late.body) := by
  obtain ⟨hk, rfl⟩ := List.getElem?_eq_some_iff.mp hlate
  obtain ⟨-, frame, tail, hframe, htail, hsuffix, -⟩ :=
    (h.takes_own_or_fails hk hsteady).resolve_left fun hown => hown.2 hfails
  obtain ⟨hlength, rfl⟩ := List.getElem?_eq_some_iff.mp hframe
  have hserved := h.before hk.le hsteady
  rw [List.drop_eq_getElem_cons hk, List.drop_eq_getElem_cons hlength] at hserved
  obtain ⟨hreply, -⟩ := List.forall₂_cons.mp hserved.replied
  rw [List.drop_eq_getElem_cons hlength, List.flatten_cons] at huntouched
  have hpack : Frame.pack turns[k].call.type turns[k].body = .ok frames[k] := by
    unfold Turn.Replied at hreply
    split at hreply
    · exact hreply
    · rw [hreply] at hsuffix
      exact absurd (List.suffix_nil.mp hsuffix) htail
  -- to the next call the late frame is a reply as good as its own
  obtain ⟨hreplied, hresult⟩ : Turn.Replied ⟨next.call, turns[k].body⟩ frames[k] ∧ _ :=
    Turn.replied_of_pack hframable (by rw [htype]; exact hpack)
  have hconnected : (l.before turns (k + 1)).Connected i := h.connected.answers _
  rcases hconnected.answer_replied hreplied huntouched with ⟨hanswer, -⟩ | ⟨reason, _, hfailed, -⟩
  · rw [outcomes_getElem? hnext, hanswer, hresult, h.client_before]
  · refine absurd ⟨reason, ?_⟩ hreads
    rw [outcomes_getElem? hnext, hfailed]

/-- Two commands are run; the first succeeds and the second fails. -/
def reloadThenKill : List Turn :=
  [⟨.runCommand "reload".toUTF8.toList, "[\x7b\"success\":true\x7d]".toUTF8.toList⟩,
    ⟨.runCommand "kill".toUTF8.toList, "[\x7b\"success\":false\x7d]".toUTF8.toList⟩]

/-- The replies to them. -/
def reloadThenKillFrames : List (List UInt8) :=
  reloadThenKill.map fun t => Frame.headerBytes t.body.length 0 ++ t.body

/-- A client around a socket that has the replies to be read after some reads that fail. -/
def delayed (reasons : List String) : Link :=
  ⟨⟨[⟨none, none, [], false,
      ⟨.accepted, none, reasons.map .failure ++ reloadThenKillFrames.map .chunk⟩⟩], []⟩,
    ⟨none, none, some 0, Json.usualNesting⟩, []⟩

theorem served_delayed (reasons : List String) :
    (delayed reasons).Served 0 reloadThenKill reloadThenKillFrames where
  connected := ⟨rfl, ⟨_, rfl, rfl⟩, by
    have hframes : Unbroken (reloadThenKillFrames.map .chunk) := by unfold Unbroken; decide +kernel
    intro hmem
    rcases List.mem_append.mp hmem with hreason | hframe
    · simp at hreason
    · exact hframes hframe⟩
  replied := .cons (by with_unfolding_all rfl) (.cons (by with_unfolding_all rfl) .nil)
  unread := by
    have hreasons : stream (reasons.map .failure) = [] := by
      simp [stream, Incoming.bytes]
    have hpending : (delayed reasons).unread 0 =
        stream (reasons.map .failure ++ reloadThenKillFrames.map .chunk) := rfl
    rw [hpending, stream_append, hreasons, stream_chunks, List.nil_append]

theorem outcomes_prompt : (delayed []).outcomes reloadThenKill =
    [.ok (.outcomes [⟨true, none, false⟩]), .ok (.outcomes [⟨false, none, false⟩])] := by
  with_unfolding_all rfl

theorem outcomes_delayed : (delayed ["timed out"]).outcomes reloadThenKill =
    [.error (.transport "timed out"), .ok (.outcomes [⟨true, none, false⟩])] := by
  with_unfolding_all rfl

theorem prompt_own_delayed_not_own :
    (delayed []).TakesOwn 0 reloadThenKill reloadThenKillFrames 1 ∧
      ¬ (delayed ["timed out"]).TakesOwn 0 reloadThenKill reloadThenKillFrames 1 := by
  constructor
  · refine (value_from_own_reply_iff (served_delayed []) (by rw [outcomes_prompt]; rfl)
      (by omega)).mpr ?_
    rintro j hj ⟨reason, hfailed⟩
    obtain rfl : j = 0 := by omega
    rw [outcomes_prompt] at hfailed
    cases hfailed
  · intro hown
    refine (value_from_own_reply_iff (served_delayed ["timed out"]) (by rw [outcomes_delayed]; rfl)
      (by omega)).mp hown 0 (by omega) ⟨"timed out", ?_⟩
    rw [outcomes_delayed]
    rfl

/-- After a read that timed out, killing fails and is answered with the success of reloading. -/
theorem delayed_answered_for_other_call :
    (delayed ["timed out"]).Served 0 reloadThenKill reloadThenKillFrames ∧
      (reloadThenKill.map (Turn.result Json.usualNesting))[1]? =
        some (.ok (.outcomes [⟨false, none, false⟩])) ∧
      ((delayed ["timed out"]).outcomes reloadThenKill)[1]? =
        some (.ok (.outcomes [⟨true, none, false⟩])) ∧
      ((delayed ["timed out"]).outcomes reloadThenKill)[1]? =
        (reloadThenKill.map (Turn.result Json.usualNesting))[0]? := by
  have hresults : reloadThenKill.map (Turn.result Json.usualNesting) =
      [.ok (.outcomes [⟨true, none, false⟩]), .ok (.outcomes [⟨false, none, false⟩])] := by
    with_unfolding_all rfl
  rw [outcomes_delayed, hresults]
  exact ⟨served_delayed _, rfl, rfl, rfl⟩

end Link

end SwayControl
