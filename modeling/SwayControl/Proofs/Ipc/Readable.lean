import SwayControl.Proofs.Ipc.Visit

/-!
What can be read of a peer: the bytes that come before a read fails or the stream ends. These bytes alone
decide whether there is a reply, and which: they must have a whole frame in front, of the type that was
asked for, with JSON in it. They also decide whether the reader of the reply gives up.
-/

namespace SwayControl

/-- The bytes that can be read before a read fails or the stream ends, as it does at an empty chunk. -/
def readable : List Incoming → List UInt8
  | [] => []
  | .failure _ :: _ => []
  | .chunk bytes :: rest => if bytes.isEmpty then [] else bytes ++ readable rest

theorem readable_chunk {bytes : List UInt8} (h : bytes ≠ []) (rest : List Incoming) :
    readable (.chunk bytes :: rest) = bytes ++ readable rest := by
  simp [readable, h]

section

variable {size : Nat} {incoming : List Incoming}

/-- So many bytes can be read as there are, and the others can be read then. -/
theorem gather_of_le (done : List UInt8) (h : size ≤ (readable incoming).length) :
    ∃ left, gather size done incoming = (.ok (done ++ (readable incoming).take size), left) ∧
      readable left = (readable incoming).drop size := by
  by_cases hsize : size = 0
  · subst hsize
    exact ⟨incoming, by rw [gather_zero, List.take_zero, List.append_nil], List.drop_zero.symm⟩
  induction incoming generalizing size done with
  | nil => exact absurd (Nat.le_zero.mp h) hsize
  | cons first rest ih =>
      cases first with
      | failure reason => exact absurd (Nat.le_zero.mp h) hsize
      | chunk bytes =>
          by_cases hempty : bytes = []
          · subst hempty
            exact absurd (Nat.le_zero.mp h) hsize
          rw [readable_chunk hempty] at h ⊢
          by_cases hlength : bytes.length ≤ size
          · rw [List.length_append] at h
            rw [gather_chunk_le hempty hlength, List.take_append, List.drop_append,
              List.take_of_length_le hlength, List.drop_of_length_le hlength, List.nil_append,
              ← List.append_assoc]
            by_cases hrest : size - bytes.length = 0
            · rw [hrest, gather_zero, List.take_zero, List.append_nil]
              exact ⟨rest, rfl, List.drop_zero.symm⟩
            · exact ih _ (by omega) hrest
          · have hdrop : bytes.drop size ≠ [] := by
              rw [Ne, List.drop_eq_nil_iff]
              exact hlength
            refine ⟨.chunk (bytes.drop size) :: rest, ?_, ?_⟩
            · rw [gather_chunk_lt hsize (Nat.lt_of_not_le hlength),
                List.take_append_of_le_length (Nat.le_of_not_le hlength)]
            · rw [readable_chunk hdrop, List.drop_append_of_le_length (Nat.le_of_not_le hlength)]

/-- More bytes than there are cannot be read. -/
theorem gather_of_lt (done : List UInt8) (h : (readable incoming).length < size) :
    ∃ fault left, gather size done incoming = (.error fault, left) := by
  have hsize : size ≠ 0 := by omega
  induction incoming generalizing size done with
  | nil => exact ⟨.ended size, [], by simp [gather, hsize]⟩
  | cons first rest ih =>
      cases first with
      | failure reason => exact ⟨.failed reason, rest, by simp [gather, hsize]⟩
      | chunk bytes =>
          by_cases hempty : bytes = []
          · exact ⟨.ended size, rest, by simp [gather, hsize, hempty]⟩
          rw [readable_chunk hempty, List.length_append] at h
          rw [gather_chunk_le hempty (by omega)]
          exact ih _ (by omega) (by omega)

/-- So many bytes are read just where there are as many, and they are those in front. -/
theorem gather_eq_ok_iff {bytes : List UInt8} : (gather size [] incoming).1 = .ok bytes ↔
    size ≤ (readable incoming).length ∧ bytes = (readable incoming).take size := by
  by_cases hsize : size ≤ (readable incoming).length
  · obtain ⟨left, hgather, -⟩ := gather_of_le [] hsize
    rw [hgather, List.nil_append, Except.ok.injEq]
    exact ⟨fun h => ⟨hsize, h.symm⟩, fun h => h.2.symm⟩
  · obtain ⟨fault, left, hgather⟩ := gather_of_lt [] (Nat.lt_of_not_le hsize)
    rw [hgather]
    constructor
    · intro h
      cases h
    · rintro ⟨hle, -⟩
      exact absurd hle hsize

end

namespace Frame

/-- The length of the payload as the header in front of some bytes states it. -/
def bodyLength (bytes : List UInt8) : Nat := number ((bytes.drop magic.length).take 4)

/-- The type of the message as the header in front of some bytes states it. -/
def messageType (bytes : List UInt8) : Nat := number ((bytes.drop (magic.length + 4)).take 4)

/-- The payload behind the header in front of some bytes, as far as it is there. -/
def body (bytes : List UInt8) : List UInt8 := (bytes.drop headerSize).take (bodyLength bytes)

/-- Whether there is a whole frame in front of some bytes. -/
structure Whole (bytes : List UInt8) : Prop where
  header : headerSize ≤ bytes.length
  marked : bytes.take magic.length = magic
  body : headerSize + bodyLength bytes ≤ bytes.length

/-- What the header in front of some bytes says. -/
theorem readHeader_take_eq_ok_iff {bytes : List UInt8} {header : Header}
    (h : headerSize ≤ bytes.length) : readHeader (bytes.take headerSize) = .ok header ↔
      bytes.take magic.length = magic ∧ header = ⟨bodyLength bytes, messageType bytes⟩ := by
  have hlength : (bytes.take headerSize).length = headerSize := List.length_take_of_le h
  have hmagic : (bytes.take headerSize).take magic.length = bytes.take magic.length := by
    rw [List.take_take]
    rfl
  have hfirst : ((bytes.take headerSize).drop magic.length).take 4 = (bytes.drop magic.length).take 4 := by
    rw [List.drop_take, List.take_take]
    rfl
  have hsecond : ((bytes.take headerSize).drop magic.length).drop 4 =
      (bytes.drop (magic.length + 4)).take 4 := by
    rw [List.drop_drop, List.drop_take]
    rfl
  simp only [readHeader, hlength, hmagic, hfirst, hsecond, bne_self_eq_false, Bool.false_eq_true, if_false]
  by_cases hmarked : bytes.take magic.length = magic
  · simp [hmarked, bodyLength, messageType, eq_comm]
  · simp [hmarked]

/-- Behind a frame other bytes do not matter. -/
theorem whole_of_pack {type : Int} {payload frame : List UInt8} (h : pack type payload = .ok frame)
    (rest : List UInt8) : Whole (frame ++ rest) ∧ type = messageType (frame ++ rest) ∧
      body (frame ++ rest) = payload := by
  obtain ⟨hsize, hpos, htype, rfl⟩ := pack_eq_ok_iff.mp h
  have hlength := length_headerBytes payload.length type.toNat
  have hfront : (headerBytes payload.length type.toNat ++ payload ++ rest).take headerSize =
      headerBytes payload.length type.toNat := by
    rw [List.append_assoc, List.take_left' hlength]
  have hheader : headerSize ≤ (headerBytes payload.length type.toNat ++ payload ++ rest).length := by
    simp only [List.length_append, hlength, Nat.add_assoc]
    exact Nat.le_add_right _ _
  have hread := readHeader_headerBytes hsize htype
  rw [← hfront, readHeader_take_eq_ok_iff hheader, Header.mk.injEq] at hread
  obtain ⟨hmarked, hbody, hmessage⟩ := hread
  refine ⟨⟨hheader, hmarked, ?_⟩, ?_, ?_⟩
  · rw [← hbody]
    simp only [List.length_append, hlength]
    omega
  · rw [← hmessage, Int.toNat_of_nonneg hpos]
  · rw [body, ← hbody, List.append_assoc, List.drop_left' hlength, List.take_left]

end Frame

section

variable {incoming : List Incoming}

/-- A frame is read just where there is a whole one in front of what can be read. -/
theorem readFrame_eq_ok_iff {header : Frame.Header} {payload : List UInt8} :
    readFrame incoming = .ok (header, payload) ↔ Frame.Whole (readable incoming) ∧
      header = ⟨Frame.bodyLength (readable incoming), Frame.messageType (readable incoming)⟩ ∧
      payload = Frame.body (readable incoming) := by
  unfold readFrame
  by_cases hheader : Frame.headerSize ≤ (readable incoming).length
  · obtain ⟨left, hfirst, hleft⟩ := gather_of_le [] hheader
    have hrest (size : Nat) : size ≤ ((readable incoming).drop Frame.headerSize).length ↔
        Frame.headerSize + size ≤ (readable incoming).length := by
      rw [List.length_drop]
      omega
    simp only [hfirst, List.nil_append, bind_eq_ok, mapError_eq_ok, Except.ok.injEq, exists_eq_left',
      Frame.readHeader_take_eq_ok_iff hheader, gather_eq_ok_iff, hleft, hrest]
    constructor
    · rintro ⟨_, ⟨hmarked, rfl⟩, _, ⟨hwhole, rfl⟩, hreply⟩
      obtain ⟨rfl, rfl⟩ := Prod.mk.inj (Except.ok.inj hreply)
      exact ⟨⟨hheader, hmarked, hwhole⟩, rfl, rfl⟩
    · rintro ⟨⟨-, hmarked, hwhole⟩, rfl, rfl⟩
      exact ⟨_, ⟨hmarked, rfl⟩, _, ⟨hwhole, rfl⟩, rfl⟩
  · obtain ⟨fault, left, hfirst⟩ := gather_of_lt [] (Nat.lt_of_not_le hheader)
    rw [hfirst]
    constructor
    · intro h
      cases h
    · rintro ⟨hwhole, -⟩
      exact absurd hwhole.header hheader

/-- A reply is read just where there is a whole frame of its type, with JSON in it, in front of what can
be read. -/
theorem readReply_eq_ok_iff {nesting : Nat} {type : Int} {value : Datum} :
    readReply nesting type incoming = .ok value ↔ Frame.Whole (readable incoming) ∧
      type = Frame.messageType (readable incoming) ∧
      Json.read nesting (Frame.body (readable incoming)) = .ok value := by
  unfold readReply
  simp only [bind_eq_ok, Prod.exists, readFrame_eq_ok_iff]
  constructor
  · rintro ⟨header, payload, ⟨hwhole, rfl, rfl⟩, hread⟩
    by_cases htype : type = Frame.messageType (readable incoming)
    · simp only [bne_iff_ne, ne_eq, htype, not_true, if_false, mapError_eq_ok] at hread
      exact ⟨hwhole, htype, hread⟩
    · simp only [bne_iff_ne, ne_eq, htype, not_false_eq_true, if_true] at hread
      cases hread
  · rintro ⟨hwhole, rfl, hread⟩
    refine ⟨_, _, ⟨hwhole, rfl, rfl⟩, ?_⟩
    simp only [bne_self_eq_false, Bool.false_eq_true, if_false]
    exact mapError_eq_ok.mpr hread

end

/-- Whether a fault comes of an exchange on a socket: neither of connecting nor of a message that has no
frame. -/
def IpcFault.isExchanged : IpcFault → Bool
  | .noPath | .notFound _ | .cannotConnect .. | .unframable _ => false
  | _ => true

theorem IpcFault.isNoSocket_of_isExchanged {fault : IpcFault} (h : fault.isExchanged = true) :
    fault.isNoSocket = false := by
  cases fault <;> first | rfl | cases h

/-- A fault that comes of an exchange and is not handed on. -/
def IpcFault.Ordinary (fault : IpcFault) : Prop :=
  fault.isExchanged = true ∧ fault.uncontained? = none

section

variable {incoming : List Incoming}

theorem readFrame_failsAs (incoming : List Incoming) :
    FailsAs IpcFault.Ordinary (readFrame incoming) := by
  have hreceive (size : Nat) (fault : ReceiveFault) : (Exchange.receiveFault size fault).Ordinary := by
    cases fault <;> exact ⟨rfl, rfl⟩
  have hheader (fault : Frame.HeaderFault) : (IpcFault.header fault).Ordinary := ⟨rfl, rfl⟩
  unfold readFrame
  apply (failsAs_mapError (hreceive _) _).bind
  intro bytes
  apply (failsAs_mapError hheader _).bind
  intro header
  apply (failsAs_mapError (hreceive _) _).bind
  intro body
  exact failsAs_ok _

theorem readReply_failsAs (nesting : Nat) (type : Int) (incoming : List Incoming) :
    FailsAs (fun fault => fault.isExchanged = true) (readReply nesting type incoming) := by
  have hunread (unread : Json.Unread) : (IpcFault.unread unread).isExchanged = true := by
    cases unread <;> rfl
  unfold readReply
  apply ((readFrame_failsAs incoming).mono fun _ h => h.1).bind
  rintro ⟨header, body⟩
  by_cases htype : type != header.type
  · simp only [htype, if_true]
    exact failsAs_error rfl
  · simp only [htype]
    exact failsAs_mapError hunread _

theorem IpcFault.unread_eq_tooDeep_iff {unread : Json.Unread} {inner : Json.Container} :
    IpcFault.unread unread = .tooDeep inner ↔ unread = .tooDeep inner := by
  cases unread <;> simp [IpcFault.unread]

/-- The reader of a reply gives up just where there is a whole frame of its type that holds what nests too
deep. -/
theorem readReply_eq_tooDeep_iff {nesting : Nat} {type : Int} {inner : Json.Container} :
    readReply nesting type incoming = .error (.tooDeep inner) ↔ Frame.Whole (readable incoming) ∧
      type = Frame.messageType (readable incoming) ∧
      Json.read nesting (Frame.body (readable incoming)) = .error (.tooDeep inner) := by
  unfold readReply
  simp only [bind_eq_error, Prod.exists, readFrame_eq_ok_iff]
  constructor
  · rintro (hframe | ⟨header, payload, ⟨hwhole, rfl, rfl⟩, hread⟩)
    · cases (readFrame_failsAs incoming _ hframe).2
    · by_cases htype : type = Frame.messageType (readable incoming)
      · simp only [bne_iff_ne, ne_eq, htype, not_true, if_false, mapError_eq_error,
          IpcFault.unread_eq_tooDeep_iff, exists_eq_right] at hread
        exact ⟨hwhole, htype, hread⟩
      · simp only [bne_iff_ne, ne_eq, htype, not_false_eq_true, if_true] at hread
        cases hread
  · rintro ⟨hwhole, rfl, hread⟩
    refine .inr ⟨_, _, ⟨hwhole, rfl, rfl⟩, ?_⟩
    simp only [bne_self_eq_false, Bool.false_eq_true, if_false]
    exact mapError_eq_error.mpr ⟨_, hread, rfl⟩

end

/-- What can be read of a peer has a whole frame of some type in front, and in it a list or table lies
deeper than a reader goes. -/
structure Peer.Overnests (peer : Peer) (nesting : Nat) (type : Int) (inner : Json.Container) :
    Prop where
  whole : Frame.Whole (readable peer.incoming)
  type_eq : type = Frame.messageType (readable peer.incoming)
  tooDeep : Json.read nesting (Frame.body (readable peer.incoming)) = .error (.tooDeep inner)

theorem Peer.overnests_iff {peer : Peer} {nesting : Nat} {type : Int} {inner : Json.Container} :
    peer.Overnests nesting type inner ↔
      readReply nesting type peer.incoming = .error (.tooDeep inner) := by
  rw [readReply_eq_tooDeep_iff]
  constructor
  · rintro ⟨hwhole, htype, hread⟩
    exact ⟨hwhole, htype, hread⟩
  · rintro ⟨hwhole, htype, hread⟩
    exact ⟨hwhole, htype, hread⟩

end SwayControl
