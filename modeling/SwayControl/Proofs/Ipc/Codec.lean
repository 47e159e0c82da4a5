import Mathlib.Data.List.Basic
import SwayControl.Proofs.Ipc.Framing

/-!
The codec of messages as a whole. Framing a message and reading a header undo each other: a message is
found again in its frame, and bytes that are read as a header begin every frame of the message they tell.
-/

namespace SwayControl.Frame

/-- Four bytes that spell a number, least significant first. -/
def Spells (bytes : List UInt8) (n : Nat) : Prop :=
  ∃ a b c d : UInt8, bytes = [a, b, c, d] ∧
    n = a.toNat + b.toNat * 2 ^ 8 + c.toNat * 2 ^ 16 + d.toNat * 2 ^ 24

variable {type : Int} {payload frame bytes : List UInt8} {n : Nat}

theorem spells_iff : Spells bytes n ↔ bytes.length = 4 ∧ number bytes = n := by
  constructor
  · rintro ⟨a, b, c, d, rfl, rfl⟩
    refine ⟨rfl, ?_⟩
    simp only [number]
    omega
  · rintro ⟨hlength, rfl⟩
    obtain ⟨a, b, c, d, rfl⟩ := List.length_eq_four.mp hlength
    refine ⟨a, b, c, d, rfl, ?_⟩
    simp only [number]
    omega

/-- A number that four bytes can hold is spelled by its own bytes and by no others. -/
theorem spells_iff_littleEndian (h : n < wordBound) : Spells bytes n ↔ bytes = littleEndian 4 n := by
  rw [spells_iff]
  constructor
  · rintro ⟨hlength, rfl⟩
    exact (littleEndian_number hlength).symm
  · rintro rfl
    exact ⟨length_littleEndian 4 n, number_littleEndian h⟩

/-- The type of a message fits into four bytes. -/
def Framable (type : Int) : Prop := 0 ≤ type ∧ type < 2 ^ 32

theorem framable_iff : Framable type ↔ 0 ≤ type ∧ type.toNat < wordBound := by
  have hbound : wordBound = 2 ^ 32 := rfl
  unfold Framable
  omega

theorem pack_ok_iff (hsize : payload.length < 2 ^ 32) :
    (∃ frame, pack type payload = .ok frame) ↔ Framable type := by
  rw [framable_iff]
  constructor
  · rintro ⟨frame, h⟩
    obtain ⟨-, hpos, hsmall, -⟩ := pack_eq_ok_iff.mp h
    exact ⟨hpos, hsmall⟩
  · rintro ⟨hpos, hsmall⟩
    exact ⟨_, pack_eq_ok_iff.mpr ⟨hsize, hpos, hsmall, rfl⟩⟩

/-- Why a type does not fit. -/
def typeFault (type : Int) : PackFault := if 0 ≤ type ∧ type < 2 ^ 64 then .tooLarge else .outOfRange

theorem pack_unframable (hsize : payload.length < 2 ^ 32) (htype : ¬ Framable type) :
    pack type payload = .error (typeFault type) := by
  have hlength : word payload.length = .ok (littleEndian 4 payload.length) :=
    word_eq_ok_iff.mpr ⟨Int.natCast_nonneg _, hsize, rfl⟩
  have hword : word type = .error (typeFault type) := by
    unfold Framable at htype
    unfold word typeFault
    by_cases hlong : 0 ≤ type ∧ type < 2 ^ 64
    · have hrange : ¬ (type < 0 ∨ 0x10000000000000000 ≤ type) := by omega
      have hbig : 0x100000000 ≤ type := by omega
      rw [if_neg (by simpa using hrange), if_pos hbig, if_pos hlong]
    · have hrange : type < 0 ∨ 0x10000000000000000 ≤ type := by omega
      rw [if_pos (by simpa using hrange), if_neg hlong]
  simp only [pack, hlength, hword]
  rfl

/-- The header of a frame tells the message, and behind it stands the payload. -/
theorem readHeader_of_pack (h : pack type payload = .ok frame) :
    ∃ header, readHeader (frame.take headerSize) = .ok header ∧ header.length = payload.length ∧
      (header.type : Int) = type ∧ frame.drop headerSize = payload := by
  obtain ⟨hsize, hpos, hsmall, rfl⟩ := pack_eq_ok_iff.mp h
  have hlength := length_headerBytes payload.length type.toNat
  refine ⟨⟨payload.length, type.toNat⟩, ?_, rfl, Int.toNat_of_nonneg hpos, List.drop_left' hlength⟩
  rw [List.take_left' hlength]
  exact readHeader_headerBytes hsize hsmall

theorem pack_injective {type' : Int} {payload' : List UInt8} (h : pack type payload = .ok frame)
    (h' : pack type' payload' = .ok frame) : type = type' ∧ payload = payload' := by
  obtain ⟨header, hread, -, rfl, rfl⟩ := readHeader_of_pack h
  obtain ⟨header', hread', -, rfl, rfl⟩ := readHeader_of_pack h'
  obtain rfl := Except.ok.inj (hread.symm.trans hread')
  exact ⟨rfl, rfl⟩

theorem readHeader_ok_iff :
    (∃ header, readHeader bytes = .ok header) ↔ bytes.length = headerSize ∧ magic <+: bytes := by
  rw [List.prefix_iff_eq_take, eq_comm (a := magic)]
  unfold readHeader
  constructor
  · rintro ⟨header, h⟩
    by_cases hsize : bytes.length = headerSize <;> by_cases hmagic : bytes.take magic.length = magic
      <;> simp_all
  · rintro ⟨hsize, hmagic⟩
    simp [hsize, hmagic]

theorem readHeader_fault (h : ¬ (bytes.length = headerSize ∧ magic <+: bytes)) :
    readHeader bytes = .error (if bytes.length = headerSize then .badMagic (bytes.take magic.length)
      else .truncated bytes.length) := by
  rw [List.prefix_iff_eq_take, eq_comm (a := magic)] at h
  unfold readHeader
  by_cases hsize : bytes.length = headerSize
  · have hmagic : bytes.take magic.length ≠ magic := fun hmagic => h ⟨hsize, hmagic⟩
    simp [hsize, hmagic]
  · simp [hsize]

/-- What is read from a header stands there as two words behind the magic one. -/
theorem readHeader_spells {header : Header} (h : readHeader bytes = .ok header) :
    ∃ first second, bytes = magic ++ first ++ second ∧ Spells first header.length ∧
      Spells second header.type := by
  obtain ⟨hlength, htype, rfl⟩ := readHeader_eq_ok_iff.mp h
  exact ⟨_, _, rfl, (spells_iff_littleEndian hlength).mpr rfl, (spells_iff_littleEndian htype).mpr rfl⟩

/-- A header that is read begins every frame of its type whose payload is as long as it says. -/
theorem pack_of_readHeader {header : Header} (h : readHeader bytes = .ok header)
    (hlength : payload.length = header.length) :
    ∃ frame, pack header.type payload = .ok frame ∧ frame.take headerSize = bytes := by
  obtain ⟨hsize, htype, rfl⟩ := readHeader_eq_ok_iff.mp h
  refine ⟨headerBytes header.length header.type ++ payload, ?_, ?_⟩
  · apply pack_eq_ok_iff.mpr
    rw [hlength]
    exact ⟨hsize, Int.natCast_nonneg _, htype, rfl⟩
  · exact List.take_left' (length_headerBytes _ _)

/-- Messages whose payload has a length of four bytes are framed exactly if their type has one, and a
frame tells its message. Bytes are a header exactly if there are as many as one has and they begin with
the magic word; such bytes begin the frame of every message that they tell. -/
theorem codec_inverse :
    (∀ (type : Int) (payload : List UInt8), payload.length < 2 ^ 32 →
      ((∃ frame, pack type payload = .ok frame) ↔ 0 ≤ type ∧ type < 2 ^ 32) ∧
      (¬ (0 ≤ type ∧ type < 2 ^ 32) → pack type payload = .error (typeFault type))) ∧
    (∀ (type : Int) (payload frame : List UInt8), pack type payload = .ok frame →
      ∃ header, readHeader (frame.take 14) = .ok header ∧ header.length = payload.length ∧
        (header.type : Int) = type ∧ frame.drop 14 = payload) ∧
    (∀ (type type' : Int) (payload payload' frame : List UInt8), pack type payload = .ok frame →
      pack type' payload' = .ok frame → type = type' ∧ payload = payload') ∧
    ∀ bytes : List UInt8,
      ((∃ header, readHeader bytes = .ok header) ↔
        bytes.length = 14 ∧ "i3-ipc".toUTF8.toList <+: bytes) ∧
      (¬ (bytes.length = 14 ∧ "i3-ipc".toUTF8.toList <+: bytes) →
        readHeader bytes = .error (if bytes.length = 14 then .badMagic (bytes.take 6)
          else .truncated bytes.length)) ∧
      ∀ header, readHeader bytes = .ok header →
        (∃ first second, bytes = "i3-ipc".toUTF8.toList ++ first ++ second ∧
          Spells first header.length ∧ Spells second header.type) ∧
        ∀ payload : List UInt8, payload.length = header.length →
          ∃ frame, pack header.type payload = .ok frame ∧ frame.take 14 = bytes := by
  have hmagic : "i3-ipc".toUTF8.toList = magic := by decide +kernel
  rw [hmagic]
  refine ⟨?_, ?_, ?_, ?_⟩
  · intro type payload hsize
    exact ⟨pack_ok_iff hsize, pack_unframable hsize⟩
  · intro type payload frame hpack
    exact readHeader_of_pack hpack
  · intro type type' payload payload' frame hpack hpack'
    exact pack_injective hpack hpack'
  · intro bytes
    refine ⟨readHeader_ok_iff, readHeader_fault, ?_⟩
    intro header hread
    refine ⟨readHeader_spells hread, ?_⟩
    intro payload hlength
    exact pack_of_readHeader hread hlength

/-- A message of two bytes, types that do not fit, and bytes that are no header or the message's. -/
theorem codec_inverse_object :
    (∃ frame, pack 7 [0x7B, 0x7D] = .ok frame ∧
      ∃ header, readHeader (frame.take 14) = .ok header ∧ header.length = 2 ∧ header.type = 7 ∧
        frame.drop 14 = [0x7B, 0x7D] ∧
        (∃ other, pack header.type [0x5B, 0x5D] = .ok other ∧ other.take 14 = frame.take 14) ∧
        ∀ type payload, pack type payload = .ok frame → type = 7 ∧ payload = [0x7B, 0x7D]) ∧
    pack (-1) [] = .error .outOfRange ∧ pack (2 ^ 32) [] = .error .tooLarge ∧
    readHeader [0x69, 0x33] = .error (.truncated 2) := by
  obtain ⟨hpack, hread, hinjective, hheader⟩ := codec_inverse
  obtain ⟨frame, hframe⟩ := (hpack 7 [0x7B, 0x7D] (by decide)).1.mpr (by decide)
  obtain ⟨header, hfound, hlength, htype, hrest⟩ := hread _ _ _ hframe
  refine ⟨⟨frame, hframe, header, hfound, hlength, ?_, hrest, ?_, ?_⟩, ?_, ?_, ?_⟩
  · exact Int.ofNat_inj.mp htype
  · exact ((hheader _).2.2 header hfound).2 [0x5B, 0x5D] hlength.symm
  · intro type payload h
    exact hinjective _ _ _ _ _ h hframe
  · exact (hpack (-1) [] (by decide)).2 (by decide)
  · exact (hpack (2 ^ 32) [] (by decide)).2 (by decide)
  · exact (hheader [0x69, 0x33]).2.1 (by decide)

end SwayControl.Frame
