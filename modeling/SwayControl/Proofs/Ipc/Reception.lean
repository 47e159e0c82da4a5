import SwayControl.Ipc.Client

/-!
Reading from a peer as reading from one stream of bytes. What a peer has to be read is chunks and
failures; joined together its chunks are a stream, and an exact number of bytes is the front of that
stream however it was cut. A read that fails takes a part of what it was to read out of the stream.
-/

namespace SwayControl

/-- The bytes of one thing to be read. -/
def Incoming.bytes : Incoming → List UInt8
  | .chunk bytes => bytes
  | .failure _ => []

/-- The bytes that a peer has to be read, joined together. -/
def stream (incoming : List Incoming) : List UInt8 := incoming.flatMap Incoming.bytes

/-- The reads that will fail, in order. -/
def failures (incoming : List Incoming) : List String :=
  incoming.filterMap fun
    | .chunk _ => none
    | .failure reason => some reason

/-- Nothing but its end ends the stream: an empty chunk would. -/
def Unbroken (incoming : List Incoming) : Prop := Incoming.chunk [] ∉ incoming

theorem stream_append (left right : List Incoming) :
    stream (left ++ right) = stream left ++ stream right := List.flatMap_append

theorem stream_chunks (chunks : List (List UInt8)) :
    stream (chunks.map .chunk) = chunks.flatten := by
  simp [stream, Incoming.bytes, List.flatMap_def, Function.comp_def]

theorem failures_chunks (chunks : List (List UInt8)) : failures (chunks.map .chunk) = [] := by
  simp [failures, List.filterMap_map]

theorem unbroken_chunks {chunks : List (List UInt8)} (h : [] ∉ chunks) :
    Unbroken (chunks.map .chunk) := by
  simpa [Unbroken] using h

theorem unbroken_nil : Unbroken [] := List.not_mem_nil

theorem Unbroken.tail {first : Incoming} {rest : List Incoming} (h : Unbroken (first :: rest)) :
    Unbroken rest := fun hmem => h (List.mem_cons_of_mem _ hmem)

theorem Unbroken.replaceHead {first : Incoming} {rest : List Incoming} (h : Unbroken (first :: rest))
    {bytes : List UInt8} (hbytes : bytes ≠ []) : Unbroken (.chunk bytes :: rest) := by
  intro hmem
  rcases List.mem_cons.mp hmem with heq | hrest
  · exact hbytes (Incoming.chunk.inj heq).symm
  · exact h.tail hrest

/-- What becomes of a read of an exact number of bytes, after those that were read before: all of them
came from the front of the stream, or a read failed, or the stream ended, after a part of them. -/
inductive Gathered (size : Nat) (done : List UInt8) (incoming : List Incoming) :
    Except ReceiveFault (List UInt8) × List Incoming → Prop
  | full (bytes : List UInt8) {left} (hbytes : bytes.length = size)
      (hstream : stream incoming = bytes ++ stream left)
      (hfailures : failures incoming = failures left) (hleft : Unbroken left) :
      Gathered size done incoming (.ok (done ++ bytes), left)
  | failed (bytes : List UInt8) {left reason} (hbytes : bytes.length < size)
      (hstream : stream incoming = bytes ++ stream left)
      (hfailures : failures incoming = reason :: failures left) (hleft : Unbroken left) :
      Gathered size done incoming (.error (.failed reason), left)
  | ended {remaining} (hremaining : (stream incoming).length + remaining = size) (hshort : 0 < remaining)
      (hfailures : failures incoming = []) :
      Gathered size done incoming (.error (.ended remaining), [])

theorem gather_zero (done : List UInt8) (incoming : List Incoming) :
    gather 0 done incoming = (.ok done, incoming) := by
  cases incoming with
  | nil => rfl
  | cons first rest => cases first <;> rfl

/-- A chunk that is no longer than what remains is taken whole, and reading goes on behind it. -/
theorem gather_chunk_le {size : Nat} {chunk : List UInt8} (hchunk : chunk ≠ [])
    (hlength : chunk.length ≤ size) (done : List UInt8) (rest : List Incoming) :
    gather size done (.chunk chunk :: rest) = gather (size - chunk.length) (done ++ chunk) rest := by
  have hsize : size ≠ 0 := by
    have := List.length_pos_iff.mpr hchunk
    omega
  simp [gather, hsize, hchunk, hlength]

/-- Of a longer chunk what remains is taken, and the chunk is cut. -/
theorem gather_chunk_lt {size : Nat} {chunk : List UInt8} (hsize : size ≠ 0)
    (hlength : size < chunk.length) (done : List UInt8) (rest : List Incoming) :
    gather size done (.chunk chunk :: rest) =
      (.ok (done ++ chunk.take size), .chunk (chunk.drop size) :: rest) := by
  have hchunk : chunk ≠ [] := List.ne_nil_of_length_pos (Nat.zero_lt_of_lt hlength)
  simp [gather, hsize, hchunk, Nat.not_le.mpr hlength]

theorem gathered_zero (done : List UInt8) {incoming : List Incoming} (h : Unbroken incoming) :
    Gathered 0 done incoming (gather 0 done incoming) := by
  rw [gather_zero]
  have hfull : Gathered 0 done incoming (.ok (done ++ []), incoming) := .full [] rfl rfl rfl h
  rwa [List.append_nil] at hfull

theorem Gathered.afterChunk {size : Nat} {done chunk : List UInt8} {rest : List Incoming}
    {result : Except ReceiveFault (List UInt8) × List Incoming} (hchunk : chunk.length ≤ size)
    (h : Gathered (size - chunk.length) (done ++ chunk) rest result) :
    Gathered size done (.chunk chunk :: rest) result := by
  have hstream : stream (.chunk chunk :: rest) = chunk ++ stream rest := rfl
  have hfailures : failures (.chunk chunk :: rest) = failures rest := rfl
  cases h with
  | full bytes hbytes hrest hfail hleft =>
      rw [List.append_assoc]
      apply Gathered.full (chunk ++ bytes)
      · simp only [List.length_append]
        omega
      · rw [hstream, hrest, List.append_assoc]
      · rw [hfailures, hfail]
      · exact hleft
  | failed bytes hbytes hrest hfail hleft =>
      apply Gathered.failed (chunk ++ bytes)
      · simp only [List.length_append]
        omega
      · rw [hstream, hrest, List.append_assoc]
      · rw [hfailures, hfail]
      · exact hleft
  | ended hremaining hshort hfail =>
      apply Gathered.ended
      · rw [hstream, List.length_append]
        omega
      · exact hshort
      · rw [hfailures, hfail]

/-- Reading an exact number of bytes. The induction is on what the peer has, one chunk or one failing
read at a time. -/
theorem gathered_gather (size : Nat) (done : List UInt8) (incoming : List Incoming)
    (h : Unbroken incoming) : Gathered size done incoming (gather size done incoming) := by
  by_cases hsize : size = 0
  · subst hsize
    exact gathered_zero done h
  induction incoming generalizing size done with
  | nil =>
      have hend : gather size done [] = (.error (.ended size), []) := by
        simp [gather, hsize]
      rw [hend]
      exact .ended (by simp [stream]) (Nat.pos_of_ne_zero hsize) rfl
  | cons first rest ih =>
      cases first with
      | failure reason =>
          have hfail : gather size done (.failure reason :: rest) = (.error (.failed reason), rest) := by
            simp [gather, hsize]
          rw [hfail]
          exact .failed [] (Nat.pos_of_ne_zero hsize) rfl rfl h.tail
      | chunk chunk =>
          have hchunk : chunk ≠ [] := by
            rintro rfl
            exact h List.mem_cons_self
          by_cases hlength : chunk.length ≤ size
          · rw [gather_chunk_le hchunk hlength]
            apply Gathered.afterChunk hlength
            by_cases hrest : size - chunk.length = 0
            · rw [hrest]
              exact gathered_zero _ h.tail
            · exact ih _ _ h.tail hrest
          · rw [gather_chunk_lt hsize (Nat.lt_of_not_le hlength)]
            apply Gathered.full (chunk.take size)
            · rw [List.length_take]
              omega
            · simp only [stream, List.flatMap_cons, Incoming.bytes]
              rw [← List.append_assoc, List.take_append_drop]
            · rfl
            · apply h.replaceHead
              intro hnil
              have := List.drop_eq_nil_iff.mp hnil
              omega

/-- A read that succeeds took its bytes from the front of the stream, also where an empty chunk or a
failure comes later. -/
theorem gather_eq_ok {size : Nat} {done all : List UInt8} {incoming left : List Incoming}
    (h : gather size done incoming = (.ok all, left)) :
    ∃ bytes, all = done ++ bytes ∧ bytes.length = size ∧ stream incoming = bytes ++ stream left := by
  induction incoming generalizing size done with
  | nil =>
      by_cases hsize : size = 0
      · subst hsize
        cases h
        exact ⟨[], (List.append_nil _).symm, rfl, rfl⟩
      · simp [gather, hsize] at h
  | cons first rest ih =>
      by_cases hsize : size = 0
      · subst hsize
        rw [gather_zero] at h
        cases h
        exact ⟨[], (List.append_nil _).symm, rfl, rfl⟩
      cases first with
      | failure reason => simp [gather, hsize] at h
      | chunk chunk =>
          have hstream : stream (.chunk chunk :: rest) = chunk ++ stream rest := rfl
          by_cases hempty : chunk = []
          · simp [gather, hsize, hempty] at h
          by_cases hlength : chunk.length ≤ size
          · rw [gather_chunk_le hempty hlength] at h
            obtain ⟨bytes, hall, hbytes, hrest⟩ := ih h
            refine ⟨chunk ++ bytes, by rw [hall, List.append_assoc], ?_, ?_⟩
            · rw [List.length_append]
              omega
            · rw [hstream, hrest, List.append_assoc]
          · rw [gather_chunk_lt hsize (Nat.lt_of_not_le hlength)] at h
            cases h
            refine ⟨chunk.take size, rfl, ?_, ?_⟩
            · rw [List.length_take]
              omega
            · have hleft : stream (.chunk (chunk.drop size) :: rest) = chunk.drop size ++ stream rest :=
                rfl
              rw [hstream, hleft, ← List.append_assoc, List.take_append_drop]

end SwayControl
