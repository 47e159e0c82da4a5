import SwayControl.Proofs.Grammar.Agreement
import SwayControl.Proofs.Grammar.Pieces

/-!
Colours and sets of colours read back from their text. A colour is made just if its components fit a byte,
and each byte is written as two digits, so the count of digits says whether there is an opacity. A set of
colours has six slots, the last two of which may be empty; what is written in the last depends on the one
before it, so a child border is never taken for an indicator.
-/

namespace SwayControl

/-- Whether an integer fits a byte. -/
def InByte (n : Int) : Prop := 0 ≤ n ∧ n ≤ 255

instance (n : Int) : Decidable (InByte n) := inferInstanceAs (Decidable (_ ∧ _))

/-- The components of a colour that are given, with their channels and in their order. -/
def givenComponents (red green blue : Int) (alpha : Option Int) : List (ColorChannel × Int) :=
  [(.red, red), (.green, green), (.blue, blue)] ++ alpha.toList.map (Prod.mk .alpha)

/-- What the record of a colour with such components holds. -/
def colorFields (red green blue : Int) (alpha : Option Int) : List Value :=
  [.int red, .int green, .int blue, alpha.elim .absent .int]

/-- The operation that makes a colour of its components. -/
def Building.color (red green blue : Int) (alpha : Option Int) : Building Value :=
  record (.argument .color) (colorFields red green blue alpha)

/-- A component from its two digits. -/
def componentOf? (high low : Char) : Option (Fin 256) :=
  (Text.hexNumber? [high, low]).bind fun n => if h : n < 256 then some ⟨n, h⟩ else none

namespace Color

/-- A colour as a record. -/
def value (c : Color) : Value :=
  .record (.argument .color) (colorFields c.red.val c.green.val c.blue.val
    (c.alpha.map fun alpha => (alpha.val : Int)))

/-- Whether the components of a colour are these integers. -/
structure HasComponents (c : Color) (r g b : Int) (a : Option Int) : Prop where
  red : (c.red.val : Int) = r
  green : (c.green.val : Int) = g
  blue : (c.blue.val : Int) = b
  alpha : (c.alpha.map fun alpha => (alpha.val : Int)) = a

/-- A colour from its text. The opacity is there if there are digits for it. -/
def ofText? (t : String) : Option Color :=
  match t.toList with
  | ['#', r, r', g, g', b, b'] =>
    return ⟨← componentOf? r r', ← componentOf? g g', ← componentOf? b b', none⟩
  | ['#', r, r', g, g', b, b', a, a'] =>
    return ⟨← componentOf? r r', ← componentOf? g g', ← componentOf? b b', some (← componentOf? a a')⟩
  | _ => none

end Color

/-- The colours of one window state. -/
structure ColorSet where
  state : ClientState
  border : Color
  background : Color
  text : Color
  indicator : Option Color
  childBorder : Option Color
deriving DecidableEq, Repr

namespace ColorSet

/-- A colour set of the grammar, with each colour as an argument. -/
def clientColors (c : ColorSet) : ClientColors :=
  ⟨c.state, .color c.border, .color c.background, .color c.text, c.indicator.map .color,
    c.childBorder.map .color⟩

/-- A colour set as a record. -/
def value (c : ColorSet) : Value :=
  .record (.topLevel .clientColors) [.keyword (Keyword.word c.state), c.border.value, c.background.value,
    c.text.value, c.indicator.elim .absent Color.value, c.childBorder.elim .absent Color.value]

/-- What is shown of a colour set: without an indicator there is no child border. -/
def shown (c : ColorSet) : ColorSet :=
  { c with childBorder := c.indicator.bind fun _ => c.childBorder }

/-- A colour set from its six slots. -/
def ofPieces? : List String → Option ColorSet
  | [state, border, background, text, indicator, childBorder] =>
    return ⟨← Keyword.ofText? state, ← Color.ofText? border, ← Color.ofText? background,
      ← Color.ofText? text, ← slotOf? Color.ofText? indicator, ← slotOf? Color.ofText? childBorder⟩
  | _ => none

end ColorSet

/-! ### Making a colour -/

theorem checkComponent_int (channel : ColorChannel) (n : Int) : checkComponent channel (.int n) =
    if InByte n then .ok () else .error (.colorOutOfRange channel n) := by
  by_cases h : InByte n
  · have hrange : (0 ≤ n && n ≤ 255) = true := by simpa [InByte] using h
    rw [checkComponent, if_pos hrange, if_pos h]
  · have hrange : ¬ (0 ≤ n && n ≤ 255) = true := by simpa [InByte] using h
    rw [checkComponent, if_neg hrange, if_neg h]

theorem checkRecord_color (red green blue : Int) (alpha : Option Int) :
    checkRecord (.argument .color) (colorFields red green blue alpha) =
      forM (givenComponents red green blue alpha) fun p => checkComponent p.1 (.int p.2) := by
  cases alpha with
  | none => rfl
  | some alpha =>
      simp only [givenComponents, Option.toList_some, List.map_cons, List.map_nil, List.cons_append,
        List.nil_append, List.forM_cons, List.forM_nil, bind_pure_unit]
      rfl

/-- Checking components in their order complains of the first that fits no byte. -/
theorem forM_checkComponent (components : List (ColorChannel × Int)) :
    (forM components fun p => checkComponent p.1 (.int p.2)) =
      (components.find? fun p => ¬ InByte p.2).elim (.ok ()) fun p => .error (.colorOutOfRange p.1 p.2) := by
  induction components with
  | nil => rfl
  | cons p rest ih =>
      rw [List.forM_cons, checkComponent_int]
      by_cases h : InByte p.2
      · rw [if_pos h, List.find?_cons_of_neg (by simpa using h), ← ih]
        rfl
      · rw [if_neg h, List.find?_cons_of_pos (by simpa using h)]
        rfl

theorem find?_not_inByte_eq_none {components : List (ColorChannel × Int)} :
    (components.find? fun p => ¬ InByte p.2) = none ↔ ∀ p ∈ components, InByte p.2 := by
  simp [List.find?_eq_none]

section

variable {red green blue n : Int} {alpha : Option Int} {s : Store} {channel : ColorChannel}
  {before after : List (ColorChannel × Int)}

/-- The check of a record goes through just if all components that are given fit a byte. -/
theorem checkRecord_color_ok_iff :
    checkRecord (.argument .color) (colorFields red green blue alpha) = .ok () ↔
      ∀ p ∈ givenComponents red green blue alpha, InByte p.2 := by
  rw [checkRecord_color, forM_checkComponent, ← find?_not_inByte_eq_none]
  cases (givenComponents red green blue alpha).find? fun p => ¬ InByte p.2 with
  | none => exact iff_of_true rfl rfl
  | some p => exact iff_of_false (by rintro ⟨⟩) (by rintro ⟨⟩)

theorem run_color_ok (h : ∀ p ∈ givenComponents red green blue alpha, InByte p.2) (s : Store) :
    (Building.color red green blue alpha).run s =
      .ok (.record (.argument .color) (colorFields red green blue alpha)) s := by
  rw [Building.color, Building.record, checkRecord_color_ok_iff.mpr h]
  rfl

/-- The first component that fits no byte is complained of. -/
theorem run_color_error
    (hgiven : givenComponents red green blue alpha = before ++ (channel, n) :: after)
    (hbefore : ∀ p ∈ before, InByte p.2) (hn : ¬ InByte n) :
    (Building.color red green blue alpha).run s = .error (.colorOutOfRange channel n) s := by
  have hfound : ((givenComponents red green blue alpha).find? fun p => ¬ InByte p.2) =
      some (channel, n) := by
    rw [hgiven, List.find?_append, find?_not_inByte_eq_none.mpr hbefore, Option.none_or,
      List.find?_cons_of_pos (by simpa using hn)]
  rw [Building.color, Building.record, checkRecord_color, forM_checkComponent, hfound]
  rfl

/-- A colour is made exactly if all components that are given fit a byte. -/
theorem run_color_ok_iff : (∃ v s', (Building.color red green blue alpha).run s = .ok v s') ↔
    ∀ p ∈ givenComponents red green blue alpha, InByte p.2 := by
  refine ⟨?_, fun h => ⟨_, s, run_color_ok h s⟩⟩
  rintro ⟨v, s', hrun⟩
  cases hchecked : checkRecord (.argument .color) (colorFields red green blue alpha) with
  | ok => exact checkRecord_color_ok_iff.mp hchecked
  | error fault =>
      rw [Building.color, Building.record, hchecked] at hrun
      cases hrun

/-- Components that all fit a byte are those of a colour. -/
theorem exists_hasComponents (h : ∀ p ∈ givenComponents red green blue alpha, InByte p.2) :
    ∃ c : Color, c.HasComponents red green blue alpha := by
  have hbyte {n : Int} (hn : InByte n) : ∃ b : Fin 256, (b.val : Int) = n :=
    ⟨⟨n.toNat, by have := hn.2; omega⟩, Int.toNat_of_nonneg hn.1⟩
  obtain ⟨r, hr⟩ := hbyte (h (.red, red) (by simp [givenComponents]))
  obtain ⟨g, hg⟩ := hbyte (h (.green, green) (by simp [givenComponents]))
  obtain ⟨b, hb⟩ := hbyte (h (.blue, blue) (by simp [givenComponents]))
  cases alpha with
  | none => exact ⟨⟨r, g, b, none⟩, hr, hg, hb, rfl⟩
  | some alpha =>
      obtain ⟨a, ha⟩ := hbyte (h (.alpha, alpha) (by simp [givenComponents]))
      exact ⟨⟨r, g, b, some a⟩, hr, hg, hb, congrArg some ha⟩

theorem Color.HasComponents.value_eq {c : Color} (h : c.HasComponents red green blue alpha) :
    c.value = .record (.argument .color) (colorFields red green blue alpha) := by
  obtain ⟨rfl, rfl, rfl, rfl⟩ := h
  rfl

end

/-- All components of a colour fit a byte. -/
theorem Color.components_inByte (c : Color) : ∀ p ∈ givenComponents c.red.val c.green.val c.blue.val
    (c.alpha.map fun alpha => (alpha.val : Int)), InByte p.2 := by
  have hbyte (b : Fin 256) : InByte b.val := ⟨by omega, by omega⟩
  obtain ⟨red, green, blue, _ | alpha⟩ := c <;> simp [givenComponents, hbyte]

/-! ### The text of a colour -/

theorem componentOf?_hexDigits (n : Fin 256) :
    componentOf? (Text.hexDigit true (n.val / 16 % 16)) (Text.hexDigit true (n.val % 16)) = some n := by
  have hdigits : Text.hexNumber? (Text.hexDigits true 2 n.val) = some n.val :=
    Text.hexNumber?_hexDigits true n.isLt
  have hpair : Text.hexDigits true 2 n.val =
      [Text.hexDigit true (n.val / 16 % 16), Text.hexDigit true (n.val % 16)] := rfl
  rw [componentOf?, ← hpair, hdigits, Option.bind_some, dif_pos n.isLt]

theorem Color.ofText?_render (c : Color) : Color.ofText? c.render = some c := by
  obtain ⟨red, green, blue, _ | alpha⟩ := c <;>
    simp only [Color.ofText?, Color.render, Color.components, String.toList_ofList, Option.toList_none,
      Option.toList_some, List.append_nil, List.cons_append, List.nil_append, List.flatMap_cons,
      List.flatMap_nil, Text.hexDigits, componentOf?_hexDigits] <;> rfl

/-- A colour is written with two capital digits for each component, so with eight just if there is an
opacity. -/
theorem Color.render_eq (c : Color) : ∃ digits : List Char, c.render = "#" ++ String.ofList digits ∧
    digits.length = (if c.alpha.isSome then 8 else 6) ∧ ∀ d ∈ digits, d ∈ capitalDigits := by
  refine ⟨c.components.flatMap fun component => Text.hexDigits true 2 component.val, ?_, ?_, ?_⟩
  · have hsign : ("#" : String) = String.ofList ['#'] := by decide
    rw [hsign, ← String.ofList_append]
    rfl
  · obtain ⟨red, green, blue, _ | alpha⟩ := c <;> rfl
  · intro d hd
    obtain ⟨component, -, hd⟩ := List.mem_flatMap.mp hd
    exact mem_capitalDigits 2 component.val d hd

theorem Color.render_ne_empty (c : Color) : c.render ≠ "" := by
  obtain ⟨digits, htext, -⟩ := c.render_eq
  rw [htext]
  exact fun hempty => absurd (String.append_eq_empty_iff.mp hempty).1 (by decide)

theorem Color.lacks_space (c : Color) : Lacks ' ' c.render := c.writtenWith_render.lacks (by decide)

theorem Color.readColor_value (c : Color) : c.value.readColor = .ok c := by
  have hbyte (n : Fin 256) : (Value.int n.val).readComponent = .ok n := by
    have hrange : (0 : Int) ≤ n.val ∧ (n.val : Int) < 256 := ⟨by omega, by omega⟩
    rw [Value.readComponent_int hrange]
    exact congrArg Except.ok (Fin.ext (Int.toNat_natCast n.val))
  obtain ⟨red, green, blue, _ | alpha⟩ := c <;>
    simp only [Color.value, colorFields, Value.readColor, hbyte, Option.map_none, Option.map_some,
      Option.elim_none, Option.elim_some, Value.readAlpha] <;> rfl

theorem Color.readArgument_value (c : Color) : c.value.readArgument = .ok (.color c) :=
  map_eq_ok.mpr ⟨c, c.readColor_value, rfl⟩

/-- What may be absent and otherwise is written in one way is an optional value written in that way. -/
theorem exists_optional_iff {α : Type} {P : Value → Prop} {write : α → Value} {v : Value}
    (h : P v ↔ ∃ a, v = write a) :
    (v = .absent ∨ P v) ↔ ∃ o : Option α, v = o.elim .absent write := by
  rw [h]
  constructor
  · rintro (rfl | ⟨a, rfl⟩)
    · exact ⟨none, rfl⟩
    · exact ⟨some a, rfl⟩
  · rintro ⟨_ | a, rfl⟩
    · exact Or.inl rfl
    · exact Or.inr ⟨a, rfl⟩

/-- The well-typed records of colours are those of some colour, as their components passed the check. -/
theorem Color.typed_iff {builder : Ref → Prop} {v : Value} :
    (Kind.record [.argument .color]).Fits v ∧ v.Typed builder ↔ ∃ c : Color, v = c.value := by
  constructor
  · rintro ⟨⟨form, hform, fields, rfl⟩, htyped⟩
    obtain rfl := List.mem_singleton.mp hform
    obtain _ | ⟨⟨red, rfl⟩, _ | ⟨⟨green, rfl⟩, _ | ⟨⟨blue, rfl⟩, _ | ⟨halpha, _ | _⟩⟩⟩⟩ := htyped.fits
    obtain ⟨alpha, rfl⟩ := (exists_optional_iff Iff.rfl).mp halpha
    obtain ⟨c, hc⟩ := exists_hasComponents (checkRecord_color_ok_iff.mp htyped.checked)
    exact ⟨c, hc.value_eq.symm⟩
  · rintro ⟨c, rfl⟩
    have hchecked := checkRecord_color_ok_iff.mpr c.components_inByte
    refine ⟨⟨_, List.mem_singleton_self _, _, rfl⟩, Value.typed_record (.cons ⟨_, rfl⟩ (.cons ⟨_, rfl⟩
      (.cons ⟨_, rfl⟩ (.cons ((exists_optional_iff Iff.rfl).mpr ⟨_, rfl⟩) .nil)))) hchecked ?_⟩
    cases c.alpha <;> simp [colorFields, Value.Typed]

/-! ### The text of a colour set -/

namespace ColorSet

variable {c : ColorSet}

/-- The last slot is that of the child border, if there is an indicator in the one before. -/
theorem slots_eq (c : ColorSet) : c.clientColors.slots = [Keyword.text c.state, c.border.render,
    c.background.render, c.text.render, c.indicator.elim "" Color.render,
    c.shown.childBorder.elim "" Color.render] := by
  obtain ⟨state, border, background, text, _ | indicator, _ | childBorder⟩ := c <;> rfl

theorem lacksEach_slots (c : ColorSet) : LacksEach ' ' c.clientColors.slots := by
  rw [slots_eq]
  exact List.forall_iff_forall_mem.mp ⟨(SlotKeyword.filled c.state).2, c.border.lacks_space,
    c.background.lacks_space, c.text.lacks_space, lacks_elim Color.lacks_space _,
    lacks_elim Color.lacks_space _⟩

/-- All spaces of a colour set are between its slots. -/
theorem piecesAt_render (c : ColorSet) : piecesAt ' ' c.clientColors.render = c.clientColors.slots :=
  piecesAt_intercalate (by decide) (List.cons_ne_nil _ _) c.lacksEach_slots

theorem ofPieces?_slots (c : ColorSet) : ofPieces? c.clientColors.slots = some c.shown := by
  have hcolor (o : Option Color) : slotOf? Color.ofText? (o.elim "" Color.render) = some o :=
    slotOf?_elim_self (fun color => ⟨color.render_ne_empty, color.ofText?_render⟩) o
  rw [slots_eq]
  simp only [ofPieces?, SlotKeyword.found, Color.ofText?_render, hcolor]
  rfl

/-! ### Colour sets as values -/

theorem readArgumentOptional_value (o : Option Color) :
    (o.elim Value.absent Color.value).readArgumentOptional = .ok (o.map .color) := by
  cases o with
  | none => rfl
  | some color => exact map_eq_ok.mpr ⟨_, color.readArgument_value, rfl⟩

theorem readWord_state (state : ClientState) :
    (Value.keyword (Keyword.word state)).readWord = .ok state := by
  have hword : Keyword.ofWord? (Keyword.word state) = some state := by
    cases state <;> decide +kernel
  simp only [Value.readWord, hword]

/-- Without an indicator the child border is not looked at. -/
theorem readClientColors_value (c : ColorSet) : c.value.readClientColors = .ok c.shown.clientColors := by
  -- Whether there is an indicator decides which value is read for the child border.
  have hread : c.value.readClientColors = (do
      return ⟨← (Value.keyword (Keyword.word c.state)).readWord, ← c.border.value.readArgument,
        ← c.background.value.readArgument, ← c.text.value.readArgument,
        ← (c.indicator.elim Value.absent Color.value).readArgumentOptional,
        ← (c.shown.childBorder.elim Value.absent Color.value).readArgumentOptional⟩) := by
    obtain ⟨state, border, background, text, _ | indicator, childBorder⟩ := c <;> rfl
  rw [hread]
  simp only [readWord_state, Color.readArgument_value, readArgumentOptional_value]
  rfl

/-- A colour set is sent as its slots behind the mark of their family. -/
theorem commandText_value (texts : Ref → String) (c : ColorSet) :
    c.value.commandText texts = .ok ("client." ++ c.clientColors.render) := by
  have hrender : c.shown.clientColors.render = c.clientColors.render := by
    obtain ⟨state, border, background, text, _ | indicator, childBorder⟩ := c <;> rfl
  have hcommand : c.value.commandText texts =
      TopLevel.render <$> (TopLevel.clientColors <$> c.value.readClientColors) := rfl
  rw [hcommand, readClientColors_value]
  exact congrArg (fun t => Except.ok ("client." ++ t)) hrender

theorem optional_typed_iff {builder : Ref → Prop} {v : Value} :
    (Kind.optional (.record [.argument .color])).Fits v ∧ v.Typed builder ↔
      ∃ o : Option Color, v = o.elim .absent Color.value := by
  have hpresent := exists_optional_iff
    (P := fun v => (Kind.record [.argument .color]).Fits v ∧ v.Typed builder) (v := v) Color.typed_iff
  rw [← hpresent]
  constructor
  · rintro ⟨habsent | hfits, htyped⟩
    · exact Or.inl habsent
    · exact Or.inr ⟨hfits, htyped⟩
  · rintro (rfl | ⟨hfits, htyped⟩)
    · exact ⟨Or.inl rfl, trivial⟩
    · exact ⟨Or.inr hfits, htyped⟩

/-- The well-typed records of colour sets are those of some colour set. -/
theorem typed_iff {builder : Ref → Prop} {fields : List Value} :
    (Value.record (.topLevel .clientColors) fields).Typed builder ↔
      ∃ c : ColorSet, Value.record (.topLevel .clientColors) fields = c.value := by
  constructor
  · intro h
    have hfields := h.fields
    obtain _ | ⟨⟨w, hw, rfl⟩, _ | ⟨hborder, _ | ⟨hbackground, _ | ⟨htext, _ | ⟨hindicator,
      _ | ⟨hchildBorder, _ | _⟩⟩⟩⟩⟩⟩ := h.fits
    simp only [List.forall_mem_cons] at hfields
    obtain ⟨-, hborder', hbackground', htext', hindicator', hchildBorder', -⟩ := hfields
    obtain ⟨state, -, rfl⟩ := List.mem_map.mp hw
    obtain ⟨border, rfl⟩ := Color.typed_iff.mp ⟨hborder, hborder'⟩
    obtain ⟨background, rfl⟩ := Color.typed_iff.mp ⟨hbackground, hbackground'⟩
    obtain ⟨text, rfl⟩ := Color.typed_iff.mp ⟨htext, htext'⟩
    obtain ⟨indicator, rfl⟩ := optional_typed_iff.mp ⟨hindicator, hindicator'⟩
    obtain ⟨childBorder, rfl⟩ := optional_typed_iff.mp ⟨hchildBorder, hchildBorder'⟩
    exact ⟨⟨state, border, background, text, indicator, childBorder⟩, rfl⟩
  · rintro ⟨c, hc⟩
    have hcolor (color : Color) := (@Color.typed_iff builder _).mpr ⟨color, rfl⟩
    have hoptional (o : Option Color) := (@optional_typed_iff builder _).mpr ⟨o, rfl⟩
    have hstate : (Kind.keyword ClientState (by decide)).Fits (.keyword (Keyword.word c.state)) :=
      ⟨_, List.mem_map_of_mem (by cases c.state <;> decide), rfl⟩
    rw [hc]
    refine Value.typed_record (.cons hstate (.cons (hcolor _).1 (.cons (hcolor _).1 (.cons (hcolor _).1
      (.cons (hoptional _).1 (.cons (hoptional _).1 .nil)))))) rfl ?_
    simp only [List.forall_mem_cons]
    exact ⟨trivial, (hcolor _).2, (hcolor _).2, (hcolor _).2, (hoptional _).2, (hoptional _).2,
      List.forall_mem_nil _⟩

/-- With an indicator all of a colour set is shown. -/
theorem shown_eq_self (h : c.indicator.isSome) : c.shown = c := by
  obtain ⟨state, border, background, text, _ | indicator, childBorder⟩ := c
  · cases h
  · rfl

/-- Without an indicator the last slot is empty. -/
theorem getLast?_slots (h : c.indicator = none) : c.clientColors.slots.getLast? = some "" := by
  simp [slots_eq, shown, h]

end ColorSet

/-- Colours and colour sets are read back from their text. A colour is made just if all components that are
given fit a byte; otherwise the first that does not, in the order red, green, blue, opacity, is complained
of by its name. A colour is written with six capital digits, with eight just if there is an opacity, and is
read back from them. A colour set is written in six slots with a space between neighbours, which give the
set again but for a child border without an indicator; without an indicator the last slot is empty. -/
theorem colors_read_back :
    (∀ (red green blue : Int) (alpha : Option Int) (s : Store),
      ((∃ v s', (Building.color red green blue alpha).run s = .ok v s') ↔
        ∀ p ∈ givenComponents red green blue alpha, InByte p.2) ∧
      ((∀ p ∈ givenComponents red green blue alpha, InByte p.2) →
        ∃ c : Color, c.HasComponents red green blue alpha ∧
          (Building.color red green blue alpha).run s = .ok c.value s ∧
          c.value.readArgument = .ok (.color c)) ∧
      ∀ before channel n after, givenComponents red green blue alpha = before ++ (channel, n) :: after →
        (∀ p ∈ before, InByte p.2) → ¬ InByte n →
          ∃ fault, (Building.color red green blue alpha).run s = .error fault s ∧
            ∀ texts, fault.message texts =
              "Color " ++ channel.name ++ " component must be within 0..255, got " ++ toString n) ∧
    (∀ c : Color,
      (∃ digits : List Char, c.render = "#" ++ String.ofList digits ∧
        digits.length = (if c.alpha.isSome then 8 else 6) ∧ ∀ d ∈ digits, d ∈ capitalDigits) ∧
      Color.ofText? c.render = some c) ∧
    (∀ c : ColorSet,
      piecesAt ' ' c.clientColors.render = c.clientColors.slots ∧ c.clientColors.slots.length = 6 ∧
        ColorSet.ofPieces? (piecesAt ' ' c.clientColors.render) = some c.shown ∧
        (c.indicator.isSome → c.shown = c) ∧
        (c.indicator = none → c.clientColors.slots.getLast? = some "")) ∧
    (∀ (c : ColorSet) (texts : Ref → String),
      c.value.commandText texts = .ok ("client." ++ c.clientColors.render)) ∧
    ∀ (builder : Ref → Prop) (fields : List Value),
      (Value.record (.topLevel .clientColors) fields).Typed builder ↔
        ∃ c : ColorSet, Value.record (.topLevel .clientColors) fields = c.value := by
  refine ⟨fun red green blue alpha s => ⟨run_color_ok_iff, fun h => ?_,
      fun before channel n after hgiven hbefore hn =>
        ⟨_, run_color_error hgiven hbefore hn, fun texts => rfl⟩⟩,
    fun c => ⟨c.render_eq, c.ofText?_render⟩,
    fun c => ⟨c.piecesAt_render, rfl, by rw [c.piecesAt_render, c.ofPieces?_slots],
      ColorSet.shown_eq_self, ColorSet.getLast?_slots⟩,
    fun c texts => c.commandText_value texts, fun builder fields => ColorSet.typed_iff⟩
  obtain ⟨c, hc⟩ := exists_hasComponents h
  refine ⟨c, hc, ?_, c.readArgument_value⟩
  rw [hc.value_eq]
  exact run_color_ok h s

/-- Colours of focused windows, with a child border of some opacity. -/
def focusedSet (indicator : Option Color) : ColorSet :=
  ⟨.focused, ⟨76, 120, 153, none⟩, ⟨40, 85, 119, none⟩, ⟨255, 255, 255, none⟩, indicator,
    some ⟨1, 2, 3, some 128⟩⟩

/-- Of three components out of range the green one is complained of, and a child border without an
indicator is not written. -/
theorem colors_read_back_focused :
    (∃ c : Color, c.HasComponents 18 52 86 (some 0) ∧
      (Building.color 18 52 86 (some 0)).run Store.empty = .ok c.value Store.empty) ∧
    (∃ fault, (Building.color 0 256 (-1) (some 300)).run Store.empty = .error fault Store.empty ∧
      fault.message Store.empty.texts = "Color green component must be within 0..255, got 256") ∧
    (focusedSet none).value.commandText Store.empty.texts =
      .ok ("client." ++ (focusedSet none).clientColors.render) ∧
    (focusedSet none).clientColors.render = "focused #4C7899 #285577 #FFFFFF  " ∧
    ColorSet.ofPieces? (piecesAt ' ' (focusedSet none).clientColors.render) =
      some (focusedSet none).shown ∧
    (focusedSet none).clientColors.slots.getLast? = some "" ∧
    (focusedSet (some ⟨46, 158, 244, none⟩)).shown = focusedSet (some ⟨46, 158, 244, none⟩) := by
  obtain ⟨hmade, -, hsets, htext, -⟩ := colors_read_back
  obtain ⟨c, hc, hrun, -⟩ := (hmade 18 52 86 (some 0) Store.empty).2.1 (by decide)
  obtain ⟨fault, hfault, hmessage⟩ := (hmade 0 256 (-1) (some 300) Store.empty).2.2 [(.red, 0)] .green 256
    [(.blue, -1), (.alpha, 300)] rfl (by decide) (by decide)
  obtain ⟨-, -, hread, -, hlast⟩ := hsets (focusedSet none)
  exact ⟨⟨c, hc, hrun⟩, ⟨fault, hfault, (hmessage _).trans (by decide)⟩, htext _ _, by decide +kernel, hread,
    hlast rfl, (hsets _).2.2.2.1 rfl⟩

end SwayControl
