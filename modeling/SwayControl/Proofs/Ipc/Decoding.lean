import SwayControl.Proofs.Ipc.Framing
import SwayControl.Proofs.Ipc.Reception

/-!
Reading of replies as decoding of a stream. What an exchange reads from its socket is told without
sockets, chunks or failing reads: from a stream of bytes come a reply and the rest of the stream. An
exchange follows a decoding when it does the same on every link, or ends because a read failed, with
some of the bytes still unread that the decoding takes.
-/

namespace SwayControl

/-- How a run ends and what it leaves. -/
def outcome {ε σ α : Type} : EStateM.Result ε σ α → Except ε α × σ
  | .ok a s => (.ok a, s)
  | .error e s => (.error e, s)

section Outcome

variable {ε σ α β : Type} {x : EStateM ε σ α} {s s' : σ}

theorem run_of_outcome_ok {a : α} (h : outcome (x.run s) = (.ok a, s')) : x.run s = .ok a s' := by
  cases hx : x.run s with
  | ok b t =>
      rw [hx] at h
      cases h
      rfl
  | error e t =>
      rw [hx] at h
      cases h

theorem run_of_outcome_error {e : ε} (h : outcome (x.run s) = (.error e, s')) :
    x.run s = .error e s' := by
  cases hx : x.run s with
  | ok b t =>
      rw [hx] at h
      cases h
  | error e t =>
      rw [hx] at h
      cases h
      rfl

theorem outcome_bind_ok {a : α} (h : outcome (x.run s) = (.ok a, s')) (f : α → EStateM ε σ β) :
    outcome ((x >>= f).run s) = outcome ((f a).run s') := by
  rw [EStateM.run_bind, run_of_outcome_ok h]

theorem outcome_bind_error {e : ε} (h : outcome (x.run s) = (.error e, s'))
    (f : α → EStateM ε σ β) : outcome ((x >>= f).run s) = (.error e, s') := by
  rw [EStateM.run_bind, run_of_outcome_error h]
  rfl

end Outcome

/-- Work on a stream of bytes. -/
abbrev Decoding := EStateM IpcFault (List UInt8)

namespace Decoding

/-- The front of a stream. A stream that is too short is lost. -/
def front (size : Nat) : Decoding (List UInt8) := fun bytes =>
  if size ≤ bytes.length then .ok (bytes.take size) (bytes.drop size)
  else .error (.ended (size - bytes.length) size) []

/-- An outcome of pure work. -/
def ofExcept {ε α : Type} (fault : ε → IpcFault) : Except ε α → Decoding α
  | .ok a => return a
  | .error e => throw (fault e)

/-- The header and the payload of the frame in front. -/
def frame : Decoding (Frame.Header × List UInt8) := do
  let bytes ← front Frame.headerSize
  let header ← ofExcept .header (Frame.readHeader bytes)
  return (header, ← front header.length)

/-- The data of the reply in front to a message of some type, for a reader that goes so deep. -/
def reply (nesting : Nat) (type : Int) : Decoding Datum := do
  let (header, body) ← frame
  if type != header.type then throw (.otherType header.type type)
  ofExcept .unread (Json.read nesting body)

theorem front_append {bytes rest : List UInt8} {size : Nat} (h : bytes.length = size) :
    (front size).run (bytes ++ rest) = .ok bytes rest := by
  have hsize : size ≤ (bytes ++ rest).length := by
    rw [List.length_append]
    omega
  simp only [front, EStateM.run, hsize, if_true, List.take_left' h, List.drop_left' h]

theorem front_short {bytes : List UInt8} {size : Nat} (h : bytes.length < size) :
    (front size).run bytes = .error (.ended (size - bytes.length) size) [] := by
  simp only [front, EStateM.run, Nat.not_le.mpr h, if_false]

/-- A frame in front is read whole, and nothing behind it. -/
theorem frame_append {type : Int} {payload bytes : List UInt8}
    (h : Frame.pack type payload = .ok bytes) (rest : List UInt8) :
    frame.run (bytes ++ rest) = .ok (⟨payload.length, type.toNat⟩, payload) rest := by
  obtain ⟨hsize, -, htype, rfl⟩ := Frame.pack_eq_ok_iff.mp h
  have hheader := Frame.readHeader_headerBytes hsize htype
  rw [List.append_assoc]
  simp only [frame, EStateM.run_bind, front_append (Frame.length_headerBytes _ _), hheader, ofExcept,
    EStateM.run_pure, front_append]

/-- The reply in a frame of the type that is asked for is what its payload holds. -/
theorem reply_append {type : Int} {payload bytes : List UInt8}
    (h : Frame.pack type payload = .ok bytes) (nesting : Nat) (rest : List UInt8) :
    outcome ((reply nesting type).run (bytes ++ rest)) =
      ((Json.read nesting payload).mapError .unread, rest) := by
  obtain ⟨-, hpos, -⟩ := Frame.pack_eq_ok_iff.mp h
  have htype : (type != (type.toNat : Int)) = false := by
    simp [Int.toNat_of_nonneg hpos]
  simp only [reply, EStateM.run_bind, frame_append h, htype]
  cases Json.read nesting payload <;> rfl

end Decoding

namespace Link

variable {l : Link} {i : Nat}

/-- What the peer of a socket has to be read. -/
def pending (l : Link) (i : Nat) : List Incoming :=
  (l.network.sockets[i]?).elim [] fun s => s.peer.incoming

/-- A link with other things to be read from a socket, and other events. -/
def leave (l : Link) (i : Nat) (left : List Incoming) (events : List Event) : Link :=
  { l with
    network := l.network.change i fun s => { s with peer := { s.peer with incoming := left } }
    events }

@[simp] theorem length_sockets_leave (left : List Incoming) (events : List Event) :
    (l.leave i left events).network.sockets.length = l.network.sockets.length :=
  List.length_modify ..

theorem leave_leave (left later : List Incoming) (events more : List Event) :
    (l.leave i left events).leave i later more = l.leave i later more := by
  simp only [leave, Network.change, List.modify_modify_eq]
  rfl

theorem pending_leave (h : i < l.network.sockets.length) (left : List Incoming)
    (events : List Event) : (l.leave i left events).pending i = left := by
  simp [pending, leave, Network.change, List.getElem?_eq_getElem h]

theorem leave_pending (h : i < l.network.sockets.length) (events : List Event) :
    l.leave i (l.pending i) events = { l with events } := by
  have hsame : l.network.sockets.modify i (fun s =>
      { s with peer := { s.peer with incoming := l.pending i } }) = l.network.sockets := by
    apply List.ext_getElem?
    intro j
    rw [List.getElem?_modify]
    by_cases hij : i = j
    · subst hij
      simp [pending, List.getElem?_eq_getElem h]
    · simp [hij]
  simp only [leave, Network.change, hsame]

/-- How a run on a link compares to a decoding of what its socket has to be read: it ends alike, or a
read failed before all was read that the decoding takes, some of which is unread then unless the
stream is too short. -/
inductive Tracks {α : Type} (l : Link) (i : Nat) :
    Except IpcFault α × List UInt8 → Except IpcFault α × Link → Prop
  | alike {result left events} (hfailures : failures (l.pending i) = failures left)
      (hleft : Unbroken left) :
      Tracks l i (result, stream left) (result, l.leave i left events)
  | cut {result rest reason left events} (taken tail : List UInt8)
      (htail : tail = [] → ∃ remaining size, result = .error (.ended remaining size))
      (hstream : stream (l.pending i) = taken ++ tail ++ rest) (hrest : stream left = tail ++ rest)
      (hfailures : failures (l.pending i) = reason :: failures left) (hleft : Unbroken left) :
      Tracks l i (result, rest) (.error (.transport reason), l.leave i left events)

variable {α : Type}

/-- A run that reads nothing. -/
theorem Tracks.still (h : i < l.network.sockets.length) (hunbroken : Unbroken (l.pending i))
    (result : Except IpcFault α) (events : List Event) :
    l.Tracks i (result, stream (l.pending i)) (result, { l with events }) := by
  rw [← leave_pending h]
  exact .alike rfl hunbroken

/-- Tracking goes on behind a part of the run that tracked. -/
theorem Tracks.afterLeave {left : List Incoming} {events : List Event} {taken : List UInt8}
    {planned : Except IpcFault α × List UInt8} {actual : Except IpcFault α × Link}
    (hi : i < l.network.sockets.length) (hstream : stream (l.pending i) = taken ++ stream left)
    (hfailures : failures (l.pending i) = failures left)
    (h : (l.leave i left events).Tracks i planned actual) : l.Tracks i planned actual := by
  cases h with
  | alike hfail hleft =>
      rw [pending_leave hi] at hfail
      rw [leave_leave]
      exact .alike (hfailures.trans hfail) hleft
  | cut more tail htail hmore hrest hfail hleft =>
      rw [pending_leave hi] at hfail hmore
      rw [leave_leave]
      apply Tracks.cut (taken ++ more) tail htail _ hrest (hfailures.trans hfail) hleft
      rw [hstream, hmore]
      simp only [List.append_assoc]

end Link

/-- An exchange that reads from a socket as a decoding reads from a stream. -/
structure Exchange.Follows {α : Type} (i : Nat) (x : Exchange α) (d : Decoding α) : Prop where
  suffix : ∀ bytes, (outcome (d.run bytes)).2 <:+ bytes
  tracks : ∀ l : Link, i < l.network.sockets.length → Unbroken (l.pending i) →
    l.Tracks i (outcome (d.run (stream (l.pending i)))) (outcome (x.run l))

namespace Exchange

variable {α β : Type} {i : Nat}

theorem follows_pure (a : α) : Follows i (pure a) (pure a) where
  suffix := List.suffix_refl
  tracks l hi hunbroken := Link.Tracks.still hi hunbroken (.ok a) l.events

theorem follows_throw (fault : IpcFault) : Follows i (throw fault : Exchange α) (throw fault) where
  suffix := List.suffix_refl
  tracks l hi hunbroken := Link.Tracks.still hi hunbroken (.error fault) l.events

theorem follows_ofExcept {ε : Type} (fault : ε → IpcFault) (work : Except ε α) :
    Follows i (ofExcept fault work) (Decoding.ofExcept fault work) := by
  cases work with
  | ok a => exact follows_pure a
  | error e => exact follows_throw (fault e)

theorem follows_note (event : Event) : Follows i (note event) (pure ()) where
  suffix := List.suffix_refl
  tracks l hi hunbroken := Link.Tracks.still hi hunbroken (.ok ()) (l.events ++ [event])

/-- The fault of an exchange when bytes cannot be read. -/
def receiveFault (size : Nat) : ReceiveFault → IpcFault
  | .failed reason => .transport reason
  | .ended remaining => .ended remaining size

theorem outcome_receive (l : Link) (i size : Nat) :
    outcome ((receive i size).run l) =
      ((gather size [] (l.pending i)).1.mapError (receiveFault size),
        l.leave i (gather size [] (l.pending i)).2 l.events) := by
  have hincoming : ((l.network.sockets[i]?).elim [] fun s => s.peer.incoming) = l.pending i := rfl
  simp only [receive, EStateM.run_bind, EStateM.run_get, hincoming]
  rcases gather size [] (l.pending i) with ⟨(reason | remaining) | bytes, left⟩ <;> rfl

theorem follows_receive (size : Nat) : Follows i (receive i size) (Decoding.front size) where
  suffix bytes := by
    by_cases h : size ≤ bytes.length
    · simp only [Decoding.front, EStateM.run, h, if_true, outcome]
      exact List.drop_suffix size bytes
    · simp only [Decoding.front, EStateM.run, h, if_false, outcome]
      exact List.nil_suffix
  tracks l hi hunbroken := by
    rw [outcome_receive]
    have hgather := gathered_gather size [] (l.pending i) hunbroken
    generalize gather size [] (l.pending i) = result at hgather
    cases hgather with
    | full bytes hbytes hstream hfailures hleft =>
        rw [hstream, Decoding.front_append hbytes]
        exact .alike hfailures hleft
    | @failed bytes left reason hbytes hstream hfailures hleft =>
        by_cases hsize : size ≤ (stream (l.pending i)).length
        · obtain ⟨tail, rest, hsplit, hlength⟩ :
              ∃ tail rest, stream left = tail ++ rest ∧ (bytes ++ tail).length = size := by
            refine ⟨(stream left).take (size - bytes.length), (stream left).drop (size - bytes.length),
              (List.take_append_drop _ _).symm, ?_⟩
            rw [hstream, List.length_append] at hsize
            simp only [List.length_append, List.length_take]
            omega
          have hwhole : stream (l.pending i) = bytes ++ tail ++ rest := by
            rw [hstream, hsplit, List.append_assoc]
          rw [hwhole, Decoding.front_append hlength]
          apply Link.Tracks.cut bytes tail _ hwhole hsplit hfailures hleft
          rintro rfl
          simp only [List.append_nil] at hlength
          omega
        · rw [Decoding.front_short (by omega)]
          apply Link.Tracks.cut bytes (stream left) _ _ _ hfailures hleft
          · intro _
            exact ⟨_, _, rfl⟩
          · rw [hstream, List.append_nil]
          · rw [List.append_nil]
    | ended hremaining hshort hfailures =>
        rw [Decoding.front_short (by omega)]
        have hrest : size - (stream (l.pending i)).length = _ := Nat.sub_eq_of_eq_add' hremaining.symm
        rw [hrest]
        exact .alike hfailures unbroken_nil

theorem Follows.bind {x : Exchange α} {d : Decoding α} {f : α → Exchange β} {g : α → Decoding β}
    (hx : Follows i x d) (hf : ∀ a, Follows i (f a) (g a)) : Follows i (x >>= f) (d >>= g) where
  suffix bytes := by
    have hfirst := hx.suffix bytes
    rw [EStateM.run_bind]
    cases hd : d.run bytes with
    | ok a rest =>
        rw [hd] at hfirst
        exact ((hf a).suffix rest).trans hfirst
    | error fault rest =>
        rw [hd] at hfirst
        exact hfirst
  tracks l hi hunbroken := by
    have hfirst := hx.tracks l hi hunbroken
    generalize hplanned : outcome (d.run (stream (l.pending i))) = planned at hfirst
    generalize hactual : outcome (x.run l) = actual at hfirst
    have hsuffix := hx.suffix (stream (l.pending i))
    rw [hplanned] at hsuffix
    cases hfirst with
    | @alike result left events hfailures hleft =>
        cases result with
        | ok a =>
            rw [outcome_bind_ok hplanned, outcome_bind_ok hactual]
            obtain ⟨taken, htaken⟩ := hsuffix
            apply Link.Tracks.afterLeave hi htaken.symm hfailures
            have hnext := (hf a).tracks (l.leave i left events)
              (by rwa [Link.length_sockets_leave]) (by rwa [Link.pending_leave hi])
            rwa [Link.pending_leave hi] at hnext
        | error fault =>
            rw [outcome_bind_error hplanned, outcome_bind_error hactual]
            exact .alike hfailures hleft
    | @cut result rest reason left events taken tail htail hstream hrest hfailures hleft =>
        rw [outcome_bind_error hactual]
        cases result with
        | ok a =>
            rw [outcome_bind_ok hplanned]
            -- the decoding goes on to a later rest, the run has stopped: what lies between is unread
            have htail : tail ≠ [] := fun h => by
              obtain ⟨_, _, hended⟩ := htail h
              cases hended
            obtain ⟨between, hbetween⟩ := (hf a).suffix rest
            generalize outcome ((g a).run rest) = next at hbetween
            obtain ⟨result', rest'⟩ := next
            apply Link.Tracks.cut taken (tail ++ between) _ _ _ hfailures hleft
            · intro h
              exact absurd (List.append_eq_nil_iff.mp h).1 htail
            · rw [hstream, ← hbetween]
              simp only [List.append_assoc]
            · rw [hrest, ← hbetween]
              simp only [List.append_assoc]
        | error fault =>
            rw [outcome_bind_error hplanned]
            apply Link.Tracks.cut taken tail _ hstream hrest hfailures hleft
            intro h
            obtain ⟨remaining, size, hended⟩ := htail h
            cases hended
            exact ⟨remaining, size, rfl⟩

end Exchange

end SwayControl
