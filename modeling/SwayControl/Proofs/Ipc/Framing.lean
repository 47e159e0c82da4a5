import SwayControl.Ipc.Frame
import Mathlib.Tactic.Ring

/-!
What a frame says of the message in it. The header of a frame is fourteen bytes from which the length
of the payload and the type of the message are read back.
-/

namespace SwayControl.Frame

theorem length_littleEndian (count n : Nat) : (littleEndian count n).length = count := by
  induction count generalizing n with
  | zero => rfl
  | succ count ih => simp only [littleEndian, List.length_cons, ih]

theorem number_littleEndian {count n : Nat} (h : n < 256 ^ count) :
    number (littleEndian count n) = n := by
  induction count generalizing n with
  | zero =>
      simp only [pow_zero, Nat.lt_one_iff] at h
      rw [h]
      rfl
  | succ count ih =>
      have hdiv : n / 256 < 256 ^ count := by
        rw [pow_succ] at h
        exact Nat.div_lt_of_lt_mul (by rwa [Nat.mul_comm] at h)
      have hbyte : (n % 256).toUInt8.toNat = n % 256 := by
        simp [Nat.toUInt8]
      rw [littleEndian, number, ih hdiv, hbyte]
      omega

theorem number_lt {count : Nat} {bytes : List UInt8} (h : bytes.length = count) :
    number bytes < 256 ^ count := by
  induction bytes generalizing count with
  | nil => exact Nat.pow_pos (by decide)
  | cons b rest ih =>
      subst h
      have hbyte : b.toNat < 256 := b.toNat_lt
      have hrest := ih rfl
      rw [number, List.length_cons, pow_succ]
      omega

theorem littleEndian_number {count : Nat} {bytes : List UInt8} (h : bytes.length = count) :
    littleEndian count (number bytes) = bytes := by
  induction bytes generalizing count with
  | nil =>
      subst h
      rfl
  | cons b rest ih =>
      subst h
      have hbyte : b.toNat < 256 := b.toNat_lt
      have hlow : (b.toNat + 256 * number rest) % 256 = b.toNat := by omega
      have hhigh : (b.toNat + 256 * number rest) / 256 = number rest := by omega
      rw [number, List.length_cons, littleEndian, hlow, hhigh, ih rfl]
      simp [Nat.toUInt8]

/-- The numbers that four bytes hold. -/
def wordBound : Nat := 256 ^ 4

/-- The bytes of a header. -/
def headerBytes (length type : Nat) : List UInt8 :=
  magic ++ littleEndian 4 length ++ littleEndian 4 type

theorem length_headerBytes (length type : Nat) :
    (headerBytes length type).length = headerSize := by
  simp only [headerBytes, List.length_append, length_littleEndian]
  rfl

theorem readHeader_headerBytes {length type : Nat} (hlength : length < wordBound)
    (htype : type < wordBound) :
    readHeader (headerBytes length type) = .ok ⟨length, type⟩ := by
  have hmagic : (headerBytes length type).take magic.length = magic := by
    simp only [headerBytes, List.append_assoc, List.take_left']
  have hnumbers : (headerBytes length type).drop magic.length =
      littleEndian 4 length ++ littleEndian 4 type := by
    simp only [headerBytes, List.append_assoc, List.drop_left']
  have hfirst : (littleEndian 4 length ++ littleEndian 4 type).take 4 = littleEndian 4 length :=
    List.take_left' (length_littleEndian 4 length)
  have hsecond : (littleEndian 4 length ++ littleEndian 4 type).drop 4 = littleEndian 4 type :=
    List.drop_left' (length_littleEndian 4 length)
  simp only [readHeader, length_headerBytes, hmagic, hnumbers, hfirst, hsecond, bne_self_eq_false,
    Bool.false_eq_true, if_false, number_littleEndian hlength, number_littleEndian htype]

/-- Bytes are a header only if they are the bytes of the header that is read from them. -/
theorem readHeader_eq_ok_iff {bytes : List UInt8} {header : Header} :
    readHeader bytes = .ok header ↔ header.length < wordBound ∧ header.type < wordBound ∧
      bytes = headerBytes header.length header.type := by
  constructor
  · intro h
    unfold readHeader at h
    split at h
    · cases h
    rename_i hsize
    split at h
    · cases h
    rename_i hmagic
    cases h
    rw [bne_iff_ne, not_not] at hsize hmagic
    -- behind the magic word stand two words of four bytes
    obtain ⟨numbers, rfl⟩ : ∃ numbers, bytes = magic ++ numbers := by
      refine ⟨bytes.drop magic.length, ?_⟩
      conv_lhs => rw [← List.take_append_drop magic.length bytes, hmagic]
    rw [List.drop_left]
    have hnumbers : numbers.length = 8 := by
      rw [List.length_append] at hsize
      exact Nat.add_left_cancel hsize
    have hfirst : (numbers.take 4).length = 4 := by rw [List.length_take, hnumbers]; rfl
    have hsecond : (numbers.drop 4).length = 4 := by rw [List.length_drop, hnumbers]
    refine ⟨number_lt hfirst, number_lt hsecond, ?_⟩
    rw [headerBytes, littleEndian_number hfirst, littleEndian_number hsecond, List.append_assoc,
      List.take_append_drop]
  · rintro ⟨hlength, htype, rfl⟩
    exact readHeader_headerBytes hlength htype

theorem word_eq_ok_iff {n : Int} {bytes : List UInt8} :
    word n = .ok bytes ↔ 0 ≤ n ∧ n.toNat < wordBound ∧ bytes = littleEndian 4 n.toNat := by
  have hbound : wordBound = 0x100000000 := rfl
  unfold word
  split
  · rename_i hrange
    simp only [Bool.or_eq_true, decide_eq_true_eq] at hrange
    constructor
    · intro h
      cases h
    · rintro ⟨hpos, hsmall, -⟩
      omega
  · rename_i hrange
    simp only [Bool.or_eq_true, decide_eq_true_eq, not_or, not_lt] at hrange
    split
    · constructor
      · intro h
        cases h
      · rintro ⟨hpos, hsmall, -⟩
        omega
    · constructor
      · intro h
        exact ⟨hrange.1, by omega, (Except.ok.inj h).symm⟩
      · rintro ⟨-, -, rfl⟩
        rfl

/-- A message has a frame if its numbers have four bytes; the frame is a header and the payload. -/
theorem pack_eq_ok_iff {type : Int} {payload frame : List UInt8} :
    pack type payload = .ok frame ↔
      payload.length < wordBound ∧ 0 ≤ type ∧ type.toNat < wordBound ∧
        frame = headerBytes payload.length type.toNat ++ payload := by
  constructor
  · intro h
    unfold pack at h
    cases hlength : word payload.length with
    | error fault => simp [hlength] at h; cases h
    | ok length =>
        cases htype : word type with
        | error fault => simp [hlength, htype] at h; cases h
        | ok kind =>
            obtain ⟨-, hsize, rfl⟩ := word_eq_ok_iff.mp hlength
            obtain ⟨hpos, hsmall, rfl⟩ := word_eq_ok_iff.mp htype
            rw [hlength, htype] at h
            exact ⟨hsize, hpos, hsmall, (Except.ok.inj h).symm⟩
  · rintro ⟨hsize, hpos, hsmall, rfl⟩
    have hlength : word payload.length = .ok (littleEndian 4 payload.length) :=
      word_eq_ok_iff.mpr ⟨Int.natCast_nonneg _, hsize, rfl⟩
    have htype : word type = .ok (littleEndian 4 type.toNat) :=
      word_eq_ok_iff.mpr ⟨hpos, hsmall, rfl⟩
    simp only [pack, hlength, htype]
    rfl

end SwayControl.Frame
