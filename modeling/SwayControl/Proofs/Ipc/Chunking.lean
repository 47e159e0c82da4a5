import SwayControl.Proofs.Ipc.Call
import Mathlib.Data.List.Forall2

/-!
Answers do not depend on how a stream is cut. Without failing reads, calls on a connected client answer
as their decodings do, one after another, and these know nothing of chunks. When the stream is the
replies of the calls, each call takes its own.
-/

namespace SwayControl

/-- What calls answer to a stream of bytes one after another, and the bytes they leave. -/
def Call.decodings (nesting : Nat) :
    List Call → List UInt8 → List (Except IpcFault Response) × List UInt8
  | [], bytes => ([], bytes)
  | c :: rest, bytes =>
    let first := outcome ((c.decoding nesting).run bytes)
    (first.1 :: (decodings nesting rest first.2).1, (decodings nesting rest first.2).2)

/-- Calls that have their replies in front answer to them, each to its own. -/
theorem Turn.decodings_replied {turns : List Turn} {frames : List (List UInt8)}
    (h : List.Forall₂ Turn.Replied turns frames) (nesting : Nat) (rest : List UInt8) :
    Call.decodings nesting (turns.map Turn.call) (frames.flatten ++ rest) =
      (turns.map (Turn.result nesting), rest) := by
  induction h with
  | nil => rfl
  | cons hfirst _ ih =>
      simp only [List.map_cons, List.flatten_cons, List.append_assoc, Call.decodings,
        hfirst.decoding, ih]

theorem Turn.forall_replied {turns : List Turn} {frames : List (List UInt8)}
    (hpayload : ∀ t ∈ turns, t.call.payload.length < Frame.wordBound)
    (h : List.Forall₂ (fun t frame => Frame.pack t.call.type t.body = .ok frame) turns frames) :
    List.Forall₂ Turn.Replied turns frames ∧ ∀ nesting,
      turns.map (Turn.result nesting) = turns.map fun t => t.call.decode nesting t.body := by
  induction h with
  | nil => exact ⟨.nil, fun _ => rfl⟩
  | cons hfirst _ ih =>
      rw [List.forall_mem_cons] at hpayload
      obtain ⟨hreplied, hresult⟩ := Turn.replied_of_pack hpayload.1 hfirst
      obtain ⟨hrest, hresults⟩ := ih hpayload.2
      refine ⟨.cons hreplied hrest, fun nesting => ?_⟩
      simp only [List.map_cons, hresult, hresults]

namespace Link

variable {l : Link} {i : Nat}

theorem Tracks.steady {α : Type} {planned : Except IpcFault α × List UInt8}
    {actual : Except IpcFault α × Link} (h : l.Tracks i planned actual)
    (hi : i < l.network.sockets.length) (hsteady : failures (l.pending i) = []) :
    (actual.1, actual.2.unread i) = planned ∧ failures (actual.2.pending i) = [] := by
  cases h with
  | alike hfailures _ =>
      rw [unread, pending_leave hi]
      exact ⟨rfl, hfailures ▸ hsteady⟩
  | cut _ _ _ _ _ hfailures _ =>
      -- an exchange is cut short by a read that fails, and there is none
      rw [hsteady] at hfailures
      cases hfailures

/-- Without failing reads a call answers as its decoding does. -/
theorem Connected.answer_steady (h : l.Connected i) (hsteady : failures (l.pending i) = [])
    (c : Call) :
    ((l.answer c).1, (l.answer c).2.unread i) =
        outcome ((c.decoding l.client.nesting).run (l.unread i)) ∧
      failures ((l.answer c).2.pending i) = [] := by
  have hdelivered := h.deliver c.message
  apply (h.tracks_answer c).steady hdelivered.lt
  rwa [pending_deliver]

theorem Connected.answers_steady (h : l.Connected i) (hsteady : failures (l.pending i) = [])
    (calls : List Call) :
    ((l.answers calls).1, (l.answers calls).2.unread i) =
      Call.decodings l.client.nesting calls (l.unread i) := by
  induction calls generalizing l with
  | nil => rfl
  | cons c rest ih =>
      obtain ⟨hfirst, hsteady'⟩ := h.answer_steady hsteady c
      have hrest := ih (h.answer c) hsteady'
      rw [h.client_answer] at hrest
      rw [Prod.ext_iff] at hfirst hrest
      simp only [Call.decodings, ← hfirst.1, ← hfirst.2, ← hrest.1, ← hrest.2]
      rfl

/-- A link whose socket has chunks to be read. -/
def fed (l : Link) (i : Nat) (chunks : List (List UInt8)) : Link :=
  l.leave i (chunks.map .chunk) l.events

section Fed

variable {s : Socket} {chunks : List (List UInt8)}

theorem connected_fed (hcurrent : l.client.current = some i)
    (hsocket : l.network.sockets[i]? = some s) (hsend : s.peer.sendFailure = none)
    (hchunks : [] ∉ chunks) : (l.fed i chunks).Connected i where
  current := hcurrent
  socket := by
    refine ⟨{ s with peer := { s.peer with incoming := chunks.map .chunk } }, ?_, hsend⟩
    simp [fed, leave, Network.change, hsocket]
  unbroken := by
    have hi : i < l.network.sockets.length := (List.getElem?_eq_some_iff.mp hsocket).1
    rw [fed, pending_leave hi]
    exact unbroken_chunks hchunks

/-- Calls on chunks answer as their decodings do on the bytes of the chunks. -/
theorem answers_fed (hcurrent : l.client.current = some i)
    (hsocket : l.network.sockets[i]? = some s) (hsend : s.peer.sendFailure = none)
    (hchunks : [] ∉ chunks) (calls : List Call) :
    (((l.fed i chunks).answers calls).1, ((l.fed i chunks).answers calls).2.unread i) =
      Call.decodings l.client.nesting calls chunks.flatten := by
  have hi : i < l.network.sockets.length := (List.getElem?_eq_some_iff.mp hsocket).1
  have hconnected := connected_fed hcurrent hsocket hsend hchunks
  have hpending : (l.fed i chunks).pending i = chunks.map .chunk := pending_leave hi _ _
  have hsteady : failures ((l.fed i chunks).pending i) = [] := by
    rw [hpending, failures_chunks]
  rw [hconnected.answers_steady hsteady, unread, hpending, stream_chunks]
  rfl

/-- What calls send does not depend on the chunks there are to be read. -/
theorem sent_answers_fed (hcurrent : l.client.current = some i)
    (hsocket : l.network.sockets[i]? = some s) (hsend : s.peer.sendFailure = none)
    (hchunks : [] ∉ chunks) (calls : List Call) :
    ((l.fed i chunks).answers calls).2.sent =
      l.sent.modify i (· ++ calls.flatMap Call.message) := by
  rw [(connected_fed hcurrent hsocket hsend hchunks).sent_answers, fed, sent_leave]

end Fed

/-- However a stream is cut into chunks, the calls on a connected client answer the same, faults
included, and send the same. If the stream is one frame for each call, of its type, each call answers to
the payload of its own frame, and reads that frame and no more. A payload that nests too deep for the
client is answered by the fault that says so, and its frame is read like any other. -/
theorem answers_independent_of_chunking {s : Socket} (hcurrent : l.client.current = some i)
    (hsocket : l.network.sockets[i]? = some s) (hsend : s.peer.sendFailure = none)
    (calls : List Call) (left right : List (List UInt8)) (hleft : [] ∉ left)
    (hright : [] ∉ right) (hsame : left.flatten = right.flatten) :
    ((l.fed i left).answers calls).1 = ((l.fed i right).answers calls).1 ∧
    ((l.fed i left).answers calls).2.sent = ((l.fed i right).answers calls).2.sent ∧
    ∀ (turns : List Turn) (frames : List (List UInt8)), turns.map Turn.call = calls →
      (∀ c ∈ calls, c.payload.length < Frame.wordBound) →
      List.Forall₂ (fun t frame => Frame.pack t.call.type t.body = .ok frame) turns frames →
      left.flatten = frames.flatten →
      ((l.fed i left).answers calls).1 = turns.map (fun t => t.call.decode l.client.nesting t.body) ∧
      ∀ k, ((l.fed i left).answers (calls.take k)).2.unread i = (frames.drop k).flatten := by
  have hanswers := answers_fed hcurrent hsocket hsend hleft
  refine ⟨?_, ?_, ?_⟩
  · have hother := answers_fed hcurrent hsocket hsend hright calls
    rw [← hsame, ← hanswers calls] at hother
    exact (congrArg Prod.fst hother).symm
  · rw [sent_answers_fed hcurrent hsocket hsend hleft, sent_answers_fed hcurrent hsocket hsend hright]
  · rintro turns frames rfl hpayload hframes hstream
    obtain ⟨hreplied, hresults⟩ :=
      Turn.forall_replied (List.forall_mem_map.mp hpayload) hframes
    constructor
    · have hall := hanswers (turns.map Turn.call)
      have hdecodings := Turn.decodings_replied hreplied l.client.nesting []
      rw [List.append_nil, ← hstream, ← hall, hresults] at hdecodings
      exact congrArg Prod.fst hdecodings
    · -- the frames in front are read by the calls in front, which leave the others
      intro k
      have hfront := hanswers ((turns.map Turn.call).take k)
      have hsplit : left.flatten = (frames.take k).flatten ++ (frames.drop k).flatten := by
        rw [hstream, ← List.flatten_append, List.take_append_drop]
      rw [← List.map_take, hsplit, Turn.decodings_replied (List.forall₂_take k hreplied) _] at hfront
      rw [← List.map_take]
      exact congrArg Prod.snd hfront

/-- A client around a socket that was connected before, with nothing to be read yet. -/
def paired : Link :=
  ⟨⟨[⟨none, none, [], false, ⟨.accepted, none, []⟩⟩], []⟩, ⟨none, none, some 0, Json.usualNesting⟩, []⟩

/-- The version is asked for, then nothing is run, and both replies are empty. -/
def quietTurns : List Turn := [⟨.getVersion, [0x7B, 0x7D]⟩, ⟨.runCommand [], [0x5B, 0x5D]⟩]

/-- The replies to them. -/
def quietFrames : List (List UInt8) :=
  [Frame.headerBytes 2 7 ++ [0x7B, 0x7D], Frame.headerBytes 2 0 ++ [0x5B, 0x5D]]

theorem paired_byte_by_byte :
    ((paired.fed 0 (quietFrames.flatten.map fun b => [b])).answers (quietTurns.map Turn.call)).1 =
      ((paired.fed 0 [quietFrames.flatten]).answers (quietTurns.map Turn.call)).1 ∧
    ((paired.fed 0 (quietFrames.flatten.map fun b => [b])).answers (quietTurns.map Turn.call)).1 =
      [.ok (.version []), .ok (.outcomes [])] := by
  obtain ⟨hsame, -, hown⟩ := answers_independent_of_chunking (l := paired) (i := 0) rfl rfl rfl
    (quietTurns.map Turn.call) (quietFrames.flatten.map fun b => [b]) [quietFrames.flatten]
    (by decide) (by decide) (by decide)
  refine ⟨hsame, ?_⟩
  have hframes : List.Forall₂ (fun t frame => Frame.pack t.call.type t.body = .ok frame)
      quietTurns quietFrames := .cons rfl (.cons rfl .nil)
  obtain ⟨hanswers, -⟩ := hown quietTurns quietFrames rfl (by decide) hframes (by decide)
  rw [hanswers]
  have hversion (nesting : Nat) : Json.read nesting [0x7B, 0x7D] = .ok (.table []) := by cbv
  have houtcomes (nesting : Nat) : Json.read nesting [0x5B, 0x5D] = .ok (.list []) := by cbv
  simp only [quietTurns, List.map_cons, List.map_nil, Call.decode, hversion, houtcomes]
  rfl

end Link

end SwayControl
