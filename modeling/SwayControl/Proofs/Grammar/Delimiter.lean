import Mathlib.Data.List.Basic
import SwayControl.Value.Reading

/-!
Delimiters: the semicolon between the commands of a batch, the comma between the sub-commands of a unit,
and the brackets around its criteria. The words and the numbers of the grammar have none of them, so a
delimiter that stands in a slot was in a text that a caller handed over.
-/

namespace SwayControl

/-- The characters that part the text of a batch. -/
def delimiters : List Char := [';', ',', '[', ']']

/-- Whether a character does not occur in a text. -/
def Lacks (d : Char) (t : String) : Prop := d ∉ t.toList

instance (d : Char) (t : String) : Decidable (Lacks d t) :=
  inferInstanceAs (Decidable (d ∉ t.toList))

/-- Whether a text has no delimiter at all. -/
def Plain (t : String) : Prop := ∀ c ∈ t.toList, c ∉ delimiters

instance (t : String) : Decidable (Plain t) := List.decidableBAll _ t.toList

variable {d : Char} {s t : String}

theorem lacks_empty : Lacks d "" := by simp [Lacks]

theorem lacks_append : Lacks d (s ++ t) ↔ Lacks d s ∧ Lacks d t := by
  simp [Lacks, not_or]

/-- A joined text has a character only if a piece or the separator has it. -/
theorem lacks_intercalate (hs : Lacks d s) {pieces : List String} (h : ∀ t ∈ pieces, Lacks d t) :
    Lacks d (s.intercalate pieces) := by
  induction pieces with
  | nil =>
      rw [String.intercalate_nil]
      exact lacks_empty
  | cons piece rest ih =>
      have hpiece := h piece List.mem_cons_self
      have hrest := ih fun t ht => h t (List.mem_cons_of_mem piece ht)
      cases rest with
      | nil => rwa [String.intercalate_singleton]
      | cons next others =>
          rw [String.intercalate_cons_cons]
          exact lacks_append.mpr ⟨lacks_append.mpr ⟨hpiece, hs⟩, hrest⟩

/-- A text that has no delimiter at all lacks each one of them. -/
theorem lacks_of_plain (hd : d ∈ delimiters) (h : Plain t) : Lacks d t :=
  fun hmem => h d hmem hd

theorem lacks_space (hd : d ∈ delimiters) : Lacks d " " := lacks_of_plain hd (by decide)

/-- Slots with a delimiter in none of them have none when they are written. -/
theorem lacks_spaced (hd : d ∈ delimiters) {slots : List String} (h : slots.Forall (Lacks d)) :
    Lacks d (spaced slots) :=
  lacks_intercalate (lacks_space hd) (List.forall_iff_forall_mem.mp h)

theorem lacks_tokenIf (condition : Bool) (h : Lacks d t) : Lacks d (tokenIf condition t) := by
  cases condition with
  | true => exact h
  | false => exact lacks_empty

/-- Whether all characters of a text are among some marks. -/
def WrittenWith (marks : List Char) (t : String) : Prop := ∀ c ∈ t.toList, c ∈ marks

instance (marks : List Char) (t : String) : Decidable (WrittenWith marks t) :=
  List.decidableBAll _ t.toList

section WrittenWith

variable {marks : List Char}

theorem WrittenWith.lacks (h : WrittenWith marks t) (hd : d ∉ marks) : Lacks d t :=
  fun hmem => hd (h d hmem)

theorem writtenWith_append : WrittenWith marks (s ++ t) ↔ WrittenWith marks s ∧ WrittenWith marks t := by
  simp only [WrittenWith, String.toList_append, List.forall_mem_append]

theorem WrittenWith.wider (h : WrittenWith marks t) (others : List Char) :
    WrittenWith (marks ++ others) t :=
  fun c hc => List.mem_append_left others (h c hc)

theorem WrittenWith.take (h : WrittenWith marks t) (count : Nat) :
    WrittenWith marks (String.ofList (t.toList.take count)) := by
  intro c hc
  rw [String.toList_ofList] at hc
  exact h c (List.mem_of_mem_take hc)

theorem WrittenWith.drop (h : WrittenWith marks t) (count : Nat) :
    WrittenWith marks (String.ofList (t.toList.drop count)) := by
  intro c hc
  rw [String.toList_ofList] at hc
  exact h c (List.mem_of_mem_drop hc)

end WrittenWith

section Numbers

open DecimalStyle

/-- The characters that integers are written with. -/
def integerMarks : List Char := ['-', '0', '1', '2', '3', '4', '5', '6', '7', '8', '9']

/-- The characters that numbers are written with: those of integers, the point, the mark of an exponent and
its sign, and the letters of what is infinite or not a number. -/
def numberMarks : List Char := integerMarks ++ ['.', 'e', '+', 'i', 'n', 'f', 'a']

theorem writtenWith_natural (n : Nat) : WrittenWith integerMarks (toString n) := by
  have hmarks : ∀ code < 58, 48 ≤ code → Char.ofNat code ∈ integerMarks := by decide
  intro c hc
  rw [Nat.toString_eq_repr, Nat.toList_repr] at hc
  have hdigit := Nat.isDigit_of_mem_toDigits (by decide) (by decide) hc
  obtain ⟨hlow, hhigh⟩ := Char.isDigit_iff_toNat.mp hdigit
  rw [← Char.ofNat_toNat c]
  exact hmarks c.toNat (by simpa using Nat.lt_succ_of_le hhigh) hlow

theorem writtenWith_integer (n : Int) : WrittenWith integerMarks (toString n) := by
  cases n with
  | ofNat n => exact writtenWith_natural n
  | negSucc n => exact writtenWith_append.mpr ⟨by decide, writtenWith_natural (n + 1)⟩

theorem writtenWith_zeros (count : Nat) :
    WrittenWith numberMarks (String.ofList (List.replicate count '0')) := by
  intro c hc
  rw [String.toList_ofList] at hc
  rw [List.eq_of_mem_replicate hc]
  decide

theorem writtenWith_positional (h : WrittenWith numberMarks t) (power : Int) :
    WrittenWith numberMarks (positional t power) := by
  unfold positional
  split
  · have hpoint : WrittenWith numberMarks "0." := by decide
    exact writtenWith_append.mpr ⟨writtenWith_append.mpr ⟨hpoint, writtenWith_zeros _⟩, h⟩
  · have hwhole := writtenWith_append.mpr ⟨h.take (power.natAbs + 1),
      writtenWith_zeros (power.natAbs + 1 - t.toList.length)⟩
    rw [← String.ofList_append] at hwhole
    refine writtenWith_append.mpr ⟨writtenWith_append.mpr ⟨hwhole, by decide⟩, ?_⟩
    split
    · decide
    · exact h.drop _

theorem writtenWith_scientific (style : DecimalStyle) (h : WrittenWith numberMarks t) (power : Int) :
    WrittenWith numberMarks (style.scientific t power) := by
  have hsign : WrittenWith numberMarks
      (if power < 0 then "-" else if style.plusSign then "+" else "") := by
    split
    · decide
    · split <;> decide
  have hfraction : WrittenWith numberMarks
      (if t.toList.length > 1 then "." ++ String.ofList (t.toList.drop 1) else "") := by
    split
    · exact writtenWith_append.mpr ⟨by decide, h.drop 1⟩
    · decide
  have hmantissa := writtenWith_append.mpr ⟨h.take 1, hfraction⟩
  have hexponent : WrittenWith numberMarks (padded style.exponentWidth (toString power.natAbs)) :=
    writtenWith_append.mpr ⟨writtenWith_zeros _, (writtenWith_natural _).wider _⟩
  exact writtenWith_append.mpr ⟨writtenWith_append.mpr
    ⟨writtenWith_append.mpr ⟨hmantissa, by decide⟩, hsign⟩, hexponent⟩

theorem writtenWith_shown (x : Binary64) : WrittenWith numberMarks x.shown := by
  unfold Binary64.shown writeBinary
  split
  · decide
  · split <;> decide
  · rename_i negative mantissa exponent _
    refine writtenWith_append.mpr ⟨by cases negative <;> decide, ?_⟩
    split
    · decide
    · unfold DecimalStyle.write
      split
      · exact writtenWith_positional ((writtenWith_natural _).wider _) _
      · exact writtenWith_scientific _ ((writtenWith_natural _).wider _) _

theorem Number.writtenWith_render (n : Number) : WrittenWith numberMarks n.render := by
  cases n with
  | int n => exact (writtenWith_integer n).wider _
  | real x =>
      simp only [Number.render]
      split
      · exact (writtenWith_integer _).wider _
      · exact writtenWith_shown x

theorem integer_ne_empty (n : Int) : toString n ≠ "" := by
  cases n with
  | ofNat n => exact Nat.repr_ne_empty
  | negSucc n => exact fun hempty => absurd (String.append_eq_empty_iff.mp hempty).1 (by decide)

theorem shown_ne_empty (x : Binary64) : x.shown ≠ "" := by
  unfold Binary64.shown writeBinary
  split
  · decide
  · split <;> decide
  · intro hempty
    have hdigits := (String.append_eq_empty_iff.mp hempty).2
    split at hdigits
    · exact absurd hdigits (by decide)
    · -- There is a point in either positional form, and an exponent in the other form.
      unfold DecimalStyle.write positional scientific at hdigits
      split at hdigits
      · split at hdigits <;> simp [String.append_eq_empty_iff] at hdigits
      · simp [String.append_eq_empty_iff] at hdigits

/-- Every number is written with some character. -/
theorem Number.render_ne_empty (n : Number) : n.render ≠ "" := by
  cases n with
  | int n => exact integer_ne_empty n
  | real x =>
      simp only [Number.render]
      split
      · exact integer_ne_empty _
      · exact shown_ne_empty x

/-- The capital hexadecimal digits. -/
def capitalDigits : List Char :=
  ['0', '1', '2', '3', '4', '5', '6', '7', '8', '9', 'A', 'B', 'C', 'D', 'E', 'F']

/-- The characters that colours are written with. -/
def colorMarks : List Char := '#' :: capitalDigits

theorem mem_capitalDigits (width n : Nat) : ∀ c ∈ Text.hexDigits true width n, c ∈ capitalDigits := by
  have hdigit : ∀ n < 16, Text.hexDigit true n ∈ capitalDigits := by decide
  induction width generalizing n with
  | zero => exact List.forall_mem_nil _
  | succ width ih =>
      exact List.forall_mem_append.mpr
        ⟨ih (n / 16), List.forall_mem_singleton.mpr (hdigit _ (Nat.mod_lt n (by decide)))⟩

theorem Color.writtenWith_render (c : Color) : WrittenWith colorMarks c.render := by
  rw [WrittenWith, Color.render, String.toList_ofList]
  refine List.forall_mem_cons.mpr ⟨List.mem_cons_self, fun d hd => ?_⟩
  obtain ⟨component, -, hd⟩ := List.mem_flatMap.mp hd
  exact List.mem_cons_of_mem _ (mem_capitalDigits 2 component.val d hd)

/-- No delimiter is among the marks of numbers and colours. -/
theorem unmarked_of_delimiter (hd : d ∈ delimiters) : d ∉ numberMarks ∧ d ∉ colorMarks := by
  have hall : ∀ d ∈ delimiters, d ∉ numberMarks ∧ d ∉ colorMarks :=
    List.forall_iff_forall_mem.mp ⟨by decide, by decide, by decide, by decide⟩
  exact hall d hd

theorem lacks_integer (hd : d ∈ delimiters) (n : Int) : Lacks d (toString n) :=
  ((writtenWith_integer n).wider _).lacks (unmarked_of_delimiter hd).1

theorem Number.lacks_render (hd : d ∈ delimiters) (n : Number) : Lacks d n.render :=
  n.writtenWith_render.lacks (unmarked_of_delimiter hd).1

theorem Color.lacks_render (hd : d ∈ delimiters) (c : Color) : Lacks d c.render :=
  c.writtenWith_render.lacks (unmarked_of_delimiter hd).2

end Numbers

/-- A list of words none of which has a delimiter. -/
class PlainKeyword (α : Type) [Keyword α] : Prop where
  plain : ∀ a : α, Plain (Keyword.text a)

theorem lacks_keyword (hd : d ∈ delimiters) {α : Type} [Keyword α] [PlainKeyword α] (a : α) :
    Lacks d (Keyword.text a) :=
  lacks_of_plain hd (PlainKeyword.plain a)

theorem plain_words {α : Type} [Keyword α] [PlainKeyword α] : ∀ w ∈ Keyword.words α, Plain w.text := by
  intro w hw
  obtain ⟨a, -, rfl⟩ := List.mem_map.mp hw
  exact PlainKeyword.plain a

instance : PlainKeyword Switch := ⟨fun a => by cases a <;> decide⟩
instance : PlainKeyword Toggle := ⟨fun a => by cases a <;> decide⟩
instance : PlainKeyword YesNo := ⟨fun a => by cases a <;> decide⟩
instance : PlainKeyword GapSide := ⟨fun a => by cases a <;> decide⟩
instance : PlainKeyword Direction := ⟨fun a => by cases a <;> decide⟩
instance : PlainKeyword OutputDirection := ⟨fun a => by cases a <;> decide⟩
instance : PlainKeyword WorkspaceStep := ⟨fun a => by cases a <;> decide⟩
instance : PlainKeyword LengthUnit := ⟨fun a => by cases a <;> decide⟩
instance : PlainKeyword UrgentPick := ⟨fun a => by cases a <;> decide⟩
instance : PlainKeyword WindowKind := ⟨fun a => by cases a <;> decide⟩
instance : PlainKeyword FontStyle := ⟨fun a => by cases a <;> decide⟩
instance : PlainKeyword FontVariant := ⟨fun a => by cases a <;> decide⟩
instance : PlainKeyword FontWeight := ⟨fun a => by cases a <;> decide⟩
instance : PlainKeyword FontStretch := ⟨fun a => by cases a <;> decide⟩
instance : PlainKeyword FontGravity := ⟨fun a => by cases a <;> decide⟩
instance : PlainKeyword BorderKind := ⟨fun a => by cases a <;> decide⟩
instance : PlainKeyword FocusPlace := ⟨fun a => by cases a <;> decide⟩
instance : PlainKeyword Cycle := ⟨fun a => by cases a <;> decide⟩
instance : PlainKeyword GapScope := ⟨fun a => by cases a <;> decide⟩
instance : PlainKeyword GapChange := ⟨fun a => by cases a <;> decide⟩
instance : PlainKeyword IdleInhibit := ⟨fun a => by cases a <;> decide⟩
instance : PlainKeyword LayoutMode := ⟨fun a => by cases a <;> decide⟩
instance : PlainKeyword LayoutCycle := ⟨fun a => by cases a <;> decide⟩
instance : PlainKeyword LayoutOption := ⟨fun a => by cases a <;> decide⟩
instance : PlainKeyword MarkMode := ⟨fun a => by cases a <;> decide⟩
instance : PlainKeyword OpacityChange := ⟨fun a => by cases a <;> decide⟩
instance : PlainKeyword ResizeAction := ⟨fun a => by cases a <;> decide⟩
instance : PlainKeyword Dimension := ⟨fun a => by cases a <;> decide⟩
instance : PlainKeyword SplitMode := ⟨fun a => by cases a <;> decide⟩
instance : PlainKeyword SwapKind := ⟨fun a => by cases a <;> decide⟩
instance : PlainKeyword UrgentAction := ⟨fun a => by cases a <;> decide⟩
instance : PlainKeyword MovePlacement := ⟨fun a => by cases a <;> decide⟩
instance : PlainKeyword LayoutGroup := ⟨fun a => by cases a <;> decide⟩
instance : PlainKeyword SwitchKind := ⟨fun a => by cases a <;> decide⟩
instance : PlainKeyword SwitchState := ⟨fun a => by cases a <;> decide⟩
instance : PlainKeyword ClientState := ⟨fun a => by cases a <;> decide⟩
instance : PlainKeyword FloatingModifierMode := ⟨fun a => by cases a <;> decide⟩
instance : PlainKeyword MouseFocus := ⟨fun a => by cases a <;> decide⟩
instance : PlainKeyword WindowActivation := ⟨fun a => by cases a <;> decide⟩
instance : PlainKeyword FocusWrap := ⟨fun a => by cases a <;> decide⟩
instance : PlainKeyword EdgeBorderMode := ⟨fun a => by cases a <;> decide⟩
instance : PlainKeyword SmartBorderMode := ⟨fun a => by cases a <;> decide⟩
instance : PlainKeyword SmartGapMode := ⟨fun a => by cases a <;> decide⟩
instance : PlainKeyword MouseWarp := ⟨fun a => by cases a <;> decide⟩
instance : PlainKeyword PopupPolicy := ⟨fun a => by cases a <;> decide⟩
instance : PlainKeyword Alignment := ⟨fun a => by cases a <;> decide⟩
instance : PlainKeyword Orientation := ⟨fun a => by cases a <;> decide⟩
instance : PlainKeyword WorkspaceLayoutMode := ⟨fun a => by cases a <;> decide⟩
instance : PlainKeyword XwaylandMode := ⟨fun a => by cases a <;> decide⟩

end SwayControl
