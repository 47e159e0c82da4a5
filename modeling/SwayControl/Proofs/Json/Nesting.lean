import SwayControl.Json.Reader
import SwayControl.Proofs.Success

/-!
How deep a reader of JSON goes. A deeper reader differs from another one only where that gives up, and for
every text there is a reader that does not. So a text spells a value, or is no JSON, for all readers alike,
and each of them knows unless it gives up. A text that only opens lists is given up just where they are
more than a reader goes through.
-/

namespace SwayControl

/-- Bytes of ASCII are decoded one by one. -/
theorem Text.Encoding.decodeFrom_ascii {bytes : List UInt8} (h : ∀ b ∈ bytes, b.toNat < 0x80)
    (position : Nat) (done : List Nat) :
    Text.Encoding.utf8.decodeFrom position done bytes =
      .ok (done.reverse ++ bytes.map UInt8.toNat) := by
  induction bytes generalizing position done with
  | nil =>
      rw [Text.Encoding.decodeFrom, List.map_nil, List.append_nil]
  | cons b rest ih =>
      obtain ⟨hb, hrest⟩ := List.forall_mem_cons.mp h
      have hnext : Text.Encoding.utf8.next b rest = .ok (b.toNat, 0) := by
        simp only [Text.Encoding.next, Text.nextOfBytes, hb, if_true]
      rw [Text.Encoding.decodeFrom, hnext]
      simp only [List.drop_zero]
      rw [ih hrest, List.reverse_cons, List.append_assoc]
      rfl

namespace Json

variable {α β : Type}

/-- An attempt ended for want of room. -/
def Attempt.GivesUp (x : Attempt α) : Prop := ∃ inner, x = .error (.tooDeep inner)

/-- How an attempt compares to one that has more room: it gave up, as it may without enough room, or it did
not and the other comes out like it. -/
inductive Attempt.Settles (enough : Prop) (x y : Attempt α) : Prop where
  | gaveUp : ¬ enough → x.GivesUp → Settles enough x y
  | alike : ¬ x.GivesUp → y = x → Settles enough x y

namespace Attempt

variable {enough less : Prop}

theorem Settles.refl {x : Attempt α} (hx : ¬ x.GivesUp) : Settles enough x x := .alike hx rfl

theorem Settles.weaken {x y : Attempt α} (h : Settles enough x y) (hless : less → enough) :
    Settles less x y := by
  cases h with
  | gaveUp henough hx => exact .gaveUp (mt hless henough) hx
  | alike hx hy => exact .alike hx hy

theorem Settles.bind {x y : Attempt α} {f g : α → Attempt β} (hxy : Settles enough x y)
    (hfg : ∀ a, Settles enough (f a) (g a)) : Settles enough (x >>= f) (y >>= g) := by
  cases hxy with
  | gaveUp henough hx =>
      obtain ⟨inner, rfl⟩ := hx
      exact .gaveUp henough ⟨inner, rfl⟩
  | alike hx hy =>
      rw [hy]
      cases x with
      | ok a => exact hfg a
      | error obstacle =>
          refine .refl fun hfailed => hx ?_
          obtain ⟨inner, hfailed⟩ := hfailed
          exact ⟨inner, congrArg Except.error (Except.error.inj hfailed)⟩

end Attempt

theorem not_givesUp_readString (start fuel : Nat) (done : List Nat) (c : Cursor) :
    ¬ (readString start fuel done c).GivesUp := by
  fun_induction readString start fuel done c <;> first | assumption | exact nofun

theorem not_givesUp_readQuoted (c : Cursor) : ¬ (readQuoted c).GivesUp :=
  not_givesUp_readString _ _ _ _

theorem not_givesUp_readNumber (c : Cursor) : ¬ (readNumber c).GivesUp := by
  fun_cases readNumber c <;> exact nofun

/-- With more room a text is read the same, unless the reading gives up; and with room for as many lists
and tables as there is fuel it does not. The induction is on the fuel, over a value, the items of a list
and the entries of a table together. -/
theorem settles_of_le (fuel : Nat) : ∀ {room more : Nat}, room ≤ more →
    (∀ c, (readValue fuel room c).Settles (fuel ≤ room) (readValue fuel more c)) ∧
    (∀ done c, (readItems fuel room done c).Settles (fuel ≤ room) (readItems fuel more done c)) ∧
    ∀ done c, (readEntries fuel room done c).Settles (fuel ≤ room) (readEntries fuel more done c) := by
  induction fuel with
  | zero =>
      intro room more _
      exact ⟨fun _ => .refl nofun, fun _ _ => .refl nofun, fun _ _ => .refl nofun⟩
  | succ fuel ih =>
      intro room more hle
      have hless : fuel + 1 ≤ room → fuel ≤ room := Nat.le_of_succ_le
      obtain ⟨hvalue, hitems, hentries⟩ := ih hle
      refine ⟨fun c => ?_, fun done c => ?_, fun done c => ?_⟩
      · simp only [readValue]
        split
        · exact (Attempt.Settles.refl (not_givesUp_readQuoted c)).bind fun _ => .refl nofun
        · cases room with
          | zero => exact .gaveUp (Nat.not_succ_le_zero _) ⟨.table, rfl⟩
          | succ room =>
              obtain ⟨more, rfl⟩ := Nat.exists_eq_succ_of_ne_zero (Nat.ne_zero_of_lt hle)
              obtain ⟨-, -, hinner⟩ := ih (Nat.le_of_succ_le_succ hle)
              simp only
              split
              · exact .refl nofun
              · exact (hinner _ _).weaken Nat.le_of_succ_le_succ
        · cases room with
          | zero => exact .gaveUp (Nat.not_succ_le_zero _) ⟨.list, rfl⟩
          | succ room =>
              obtain ⟨more, rfl⟩ := Nat.exists_eq_succ_of_ne_zero (Nat.ne_zero_of_lt hle)
              obtain ⟨-, hinner, -⟩ := ih (Nat.le_of_succ_le_succ hle)
              simp only
              split
              · exact .refl nofun
              · exact (hinner _ _).weaken Nat.le_of_succ_le_succ
        · split
          · exact .refl nofun
          · exact .refl (not_givesUp_readNumber c)
      · simp only [readItems]
        apply ((hvalue c).weaken hless).bind
        rintro ⟨item, after⟩
        simp only
        split
        · exact .refl nofun
        · split
          · exact (hitems _ _).weaken hless
          · exact .refl nofun
      · simp only [readEntries]
        split
        · exact .refl nofun
        apply (Attempt.Settles.refl (not_givesUp_readQuoted c)).bind
        rintro ⟨key, after⟩
        simp only
        split
        · exact .refl nofun
        apply ((hvalue _).weaken hless).bind
        rintro ⟨value, after⟩
        simp only
        split
        · exact .refl nofun
        · split
          · exact (hentries _ _).weaken hless
          · exact .refl nofun

theorem readWhole_settles {nesting deeper : Nat} (h : nesting ≤ deeper) (points : List Nat) :
    (readWhole nesting points).Settles (2 * points.length + 1 ≤ nesting) (readWhole deeper points) := by
  obtain ⟨hvalue, -, -⟩ := settles_of_le (2 * points.length + 2) (Nat.succ_le_succ h)
  unfold readWhole
  apply ((hvalue _).weaken Nat.succ_le_succ).bind
  rintro ⟨value, after⟩
  simp only
  split
  · exact .refl nofun
  · exact .refl nofun

/-- A reader gives up on bytes. -/
def TooDeep (nesting : Nat) (bytes : List UInt8) : Prop :=
  ∃ inner, read nesting bytes = .error (.tooDeep inner)

/-- Bytes spell a value, for readers that go deep enough. -/
def Spells (bytes : List UInt8) (value : Datum) : Prop := ∃ nesting, read nesting bytes = .ok value

/-- Bytes are no JSON, for readers that go deep enough. -/
def Malformed (bytes : List UInt8) (fault : JsonFault) : Prop :=
  ∃ nesting, read nesting bytes = .error (.malformed fault)

section

variable {nesting deeper : Nat} {bytes : List UInt8} {value other : Datum} {fault : JsonFault}

theorem Obstacle.unread_eq_tooDeep_iff {obstacle : Obstacle} {points : List Nat} {inner : Container} :
    obstacle.unread points = .tooDeep inner ↔ obstacle = .tooDeep inner := by
  cases obstacle <;> simp [unread]

theorem tooDeep_iff {points : List Nat} (hdecode : decode bytes = .ok points) :
    TooDeep nesting bytes ↔ (readWhole nesting points).GivesUp := by
  simp only [TooDeep, read, hdecode, readPoints, mapError_eq_error, Obstacle.unread_eq_tooDeep_iff,
    exists_eq_right]
  rfl

/-- A deeper reader reads the same where another one does not give up. -/
theorem read_eq_of_le (hle : nesting ≤ deeper) (hread : ¬ TooDeep nesting bytes) :
    read deeper bytes = read nesting bytes := by
  cases hdecode : decode bytes with
  | error fault => simp only [read, hdecode]
  | ok points =>
      cases readWhole_settles hle points with
      | gaveUp _ hgave => exact absurd ((tooDeep_iff hdecode).mpr hgave) hread
      | alike _ hsame => simp only [read, hdecode, readPoints, hsame]

theorem read_eq_read (hread : ¬ TooDeep nesting bytes) (hdeeper : ¬ TooDeep deeper bytes) :
    read deeper bytes = read nesting bytes := by
  rcases Nat.le_total nesting deeper with hle | hle
  · exact read_eq_of_le hle hread
  · exact (read_eq_of_le hle hdeeper).symm

/-- For all bytes there is a reader that does not give up. -/
theorem exists_not_tooDeep (bytes : List UInt8) : ∃ nesting, ¬ TooDeep nesting bytes := by
  cases hdecode : decode bytes with
  | error fault =>
      refine ⟨0, ?_⟩
      rintro ⟨inner, hread⟩
      simp only [read, hdecode] at hread
      cases hread
  | ok points =>
      refine ⟨2 * points.length + 1, ?_⟩
      rw [tooDeep_iff hdecode]
      cases readWhole_settles (Nat.le_refl (2 * points.length + 1)) points with
      | gaveUp hroom _ => exact absurd (Nat.le_refl _) hroom
      | alike hkept _ => exact hkept

theorem not_tooDeep_of_ok (h : read nesting bytes = .ok value) : ¬ TooDeep nesting bytes := by
  rintro ⟨inner, hdeep⟩
  rw [h] at hdeep
  cases hdeep

theorem not_tooDeep_of_malformed (h : read nesting bytes = .error (.malformed fault)) :
    ¬ TooDeep nesting bytes := by
  rintro ⟨inner, hdeep⟩
  rw [h] at hdeep
  cases hdeep

/-- A reader that does not give up reads what the bytes spell. -/
theorem read_eq_ok_iff :
    read nesting bytes = .ok value ↔ Spells bytes value ∧ ¬ TooDeep nesting bytes := by
  constructor
  · intro h
    exact ⟨⟨nesting, h⟩, not_tooDeep_of_ok h⟩
  · rintro ⟨⟨other, h⟩, hread⟩
    rw [read_eq_read (not_tooDeep_of_ok h) hread, h]

theorem read_eq_malformed_iff : read nesting bytes = .error (.malformed fault) ↔
    Malformed bytes fault ∧ ¬ TooDeep nesting bytes := by
  constructor
  · intro h
    exact ⟨⟨nesting, h⟩, not_tooDeep_of_malformed h⟩
  · rintro ⟨⟨other, h⟩, hread⟩
    rw [read_eq_read (not_tooDeep_of_malformed h) hread, h]

/-- All bytes either spell a value or are no JSON. -/
theorem spells_or_malformed (bytes : List UInt8) :
    (∃ value, Spells bytes value) ∨ ∃ fault, Malformed bytes fault := by
  obtain ⟨nesting, hread⟩ := exists_not_tooDeep bytes
  cases h : read nesting bytes with
  | ok value => exact .inl ⟨value, nesting, h⟩
  | error unread =>
      cases unread with
      | malformed fault => exact .inr ⟨fault, nesting, h⟩
      | tooDeep inner => exact absurd ⟨inner, h⟩ hread

theorem Spells.unique (h : Spells bytes value) (hother : Spells bytes other) : value = other := by
  obtain ⟨nesting, h⟩ := h
  obtain ⟨deeper, hother⟩ := hother
  rw [read_eq_read (not_tooDeep_of_ok hother) (not_tooDeep_of_ok h), hother] at h
  exact (Except.ok.inj h).symm

theorem Spells.not_malformed (h : Spells bytes value) : ¬ Malformed bytes fault := by
  rintro ⟨nesting, hfault⟩
  rw [(read_eq_ok_iff.mpr ⟨h, not_tooDeep_of_malformed hfault⟩)] at hfault
  cases hfault

end

/-- A text that only opens lists. -/
def openings (count : Nat) : List UInt8 := List.replicate count 0x5B

theorem decode_openings (count : Nat) :
    decode (openings count) = .ok (List.replicate count 0x5B) := by
  have hunmarked : markedEncoding? (openings count) = none := by
    cases count with
    | zero => rfl
    | succ count => simp [openings, List.replicate_succ, markedEncoding?]
  have hencoding : unmarkedEncoding (openings count) = .utf8 := by
    match count with
    | 0 | 1 | 2 | 3 => rfl
    | count + 4 => simp [openings, List.replicate_succ, unmarkedEncoding]
  have hascii : ∀ b ∈ openings count, b.toNat < 0x80 := by
    intro b hb
    rw [List.eq_of_mem_replicate hb]
    decide
  simp only [decode, hunmarked, hencoding, Text.Encoding.decodeFrom_ascii hascii]
  simp only [openings, List.map_replicate]
  rfl

theorem readValue_end (fuel room position : Nat) :
    readValue fuel room ⟨position, []⟩ = stop .value position := by
  cases fuel with
  | zero => rfl
  | succ fuel => simp only [readValue]; rfl

theorem skipGap_openings (position count : Nat) :
    Cursor.skipGap ⟨position, List.replicate count 0x5B⟩ = ⟨position, List.replicate count 0x5B⟩ := by
  cases count with
  | zero => rfl
  | succ count => rfl

/-- What opens more lists than there is room for is given up; what does not ends without a value. -/
theorem readValue_openings {count fuel : Nat} (hfuel : 2 * count ≤ fuel) (room position : Nat) :
    readValue fuel room ⟨position, List.replicate count 0x5B⟩ =
      if room < count then .error (.tooDeep .list) else stop .value (position + count) := by
  induction count generalizing fuel room position with
  | zero => simp only [List.replicate_zero, readValue_end, Nat.not_lt_zero, if_false, Nat.add_zero]
  | succ count ih =>
      obtain ⟨fuel, rfl⟩ : ∃ rest, fuel = rest + 2 := ⟨fuel - 2, by omega⟩
      cases room with
      | zero => simp only [List.replicate_succ, readValue, Nat.zero_lt_succ, if_true]
      | succ room =>
          have hinner : (Cursor.advance ⟨position, List.replicate (count + 1) 0x5B⟩ 1).skipGap =
              ⟨position + 1, List.replicate count 0x5B⟩ := skipGap_openings (position + 1) count
          have hopen : Cursor.sees ⟨position + 1, List.replicate count 0x5B⟩ ']' = false := by
            cases count <;> rfl
          rw [List.replicate_succ] at hinner ⊢
          simp only [readValue, hinner, hopen, Bool.false_eq_true, if_false, readItems,
            ih (by omega : 2 * count ≤ fuel)]
          by_cases hroom : room < count
          · simp [hroom]; rfl
          · simp [hroom, Nat.add_assoc, Nat.add_comm 1 count]; rfl

theorem read_openings (nesting count : Nat) :
    read nesting (openings count) =
      if nesting + 1 < count then .error (.tooDeep .list)
      else .error (.malformed (.wrong .value count 1 (count + 1))) := by
  have hfault : faultAt (List.replicate count 0x5B) .value count = .wrong .value count 1 (count + 1) := by
    simp [faultAt]
  simp only [read, decode_openings, readPoints, readWhole, skipGap_openings, List.length_replicate,
    readValue_openings (Nat.le_add_right (2 * count) 2), Nat.zero_add]
  split
  · rfl
  · rw [← hfault]
    rfl

/-- Lists that are only opened are no JSON, however many. -/
theorem malformed_openings (count : Nat) :
    Malformed (openings count) (.wrong .value count 1 (count + 1)) :=
  ⟨count, by rw [read_openings, if_neg (Nat.not_lt_of_le (Nat.le_succ count))]⟩

end Json

end SwayControl
