import SwayControl.Proofs.Builder.Sameness
import SwayControl.Proofs.Grammar.Reading
import SwayControl.Proofs.Grammar.Typing
import SwayControl.Proofs.Number.Exact

/-!
Well-typed values that are alike are read alike. Reading either of them succeeds, and what is read is the
same, but for numbers, which are written alike. A value is like itself, so this says too that reading a
well-typed value always succeeds.
-/

namespace SwayControl

/-- Two well-typed values of one kind that are alike. -/
structure Matched (builder : Ref → Prop) (builders : Ref → Ref → Bool) (kind : Kind) (v w : Value) :
    Prop where
  fits : kind.Fits v
  fits' : kind.Fits w
  typed : v.Typed builder
  typed' : w.Typed builder
  alike : v.Alike builders w

/-- Well-typed fields of the given kinds that are alike one by one. -/
inductive MatchedAll (builder : Ref → Prop) (builders : Ref → Ref → Bool) :
    List Kind → List Value → List Value → Prop
  | nil : MatchedAll builder builders [] [] []
  | cons {kind kinds v w vs ws} : Matched builder builders kind v w →
      MatchedAll builder builders kinds vs ws →
        MatchedAll builder builders (kind :: kinds) (v :: vs) (w :: ws)

variable {builder : Ref → Prop} {builders : Ref → Ref → Bool} {kind left right : Kind}
  {kinds : List Kind} {v w : Value} {vs ws : List Value}

theorem matchedAll_of_fields (hfits : List.Forall₂ Kind.Fits kinds vs)
    (hfits' : List.Forall₂ Kind.Fits kinds ws) (htyped : ∀ v ∈ vs, v.Typed builder)
    (htyped' : ∀ w ∈ ws, w.Typed builder) (halike : List.Forall₂ (Value.Alike builders) vs ws) :
    MatchedAll builder builders kinds vs ws := by
  induction hfits generalizing ws with
  | nil =>
      cases hfits'
      exact .nil
  | cons hv _ ih =>
      cases hfits' with
      | cons hw hfits' =>
          cases halike with
          | cons hvw halike =>
              rw [List.forall_mem_cons] at htyped htyped'
              exact .cons ⟨hv, hw, htyped.1, htyped'.1, hvw⟩ (ih hfits' htyped.2 htyped'.2 halike)

theorem matched_of_items (hfits : ∀ v ∈ vs, kind.Fits v) (hfits' : ∀ w ∈ ws, kind.Fits w)
    (htyped : ∀ v ∈ vs, v.Typed builder) (htyped' : ∀ w ∈ ws, w.Typed builder)
    (halike : List.Forall₂ (Value.Alike builders) vs ws) :
    List.Forall₂ (Matched builder builders kind) vs ws := by
  induction halike with
  | nil => exact .nil
  | cons hvw _ ih =>
      rw [List.forall_mem_cons] at hfits hfits' htyped htyped'
      exact .cons ⟨hfits.1, hfits'.1, htyped.1, htyped'.1, hvw⟩
        (ih hfits.2 hfits'.2 htyped.2 htyped'.2)

/-- A word of a keyword list is found in it again. -/
theorem Keyword.exists_ofWord? {α : Type} [Keyword α] {w : Word} (h : w ∈ Keyword.words α) :
    ∃ a : α, Keyword.ofWord? w = some a := by
  obtain ⟨a, ha, rfl⟩ := List.mem_map.mp h
  have hfound : ((Keyword.all : List α).find? fun b =>
      Keyword.member b == Keyword.member a).isSome = true :=
    List.find?_isSome.mpr ⟨a, ha, beq_self_eq_true _⟩
  obtain ⟨b, hb⟩ := Option.isSome_iff_exists.mp hfound
  exact ⟨b, by simpa [Keyword.ofWord?, Keyword.word] using hb⟩

/-- A component in range is read as it is. -/
theorem Value.readComponent_int {n : Int} (h : 0 ≤ n ∧ n < 256) :
    (Value.int n).readComponent = .ok ⟨n.toNat, (Int.toNat_lt h.1).mpr h.2⟩ := by
  simp only [Value.readComponent, Value.readInt]
  exact dif_pos h

namespace Matched

/-- A well-typed value is matched with itself. -/
theorem self (hbuilders : ∀ ref, builders ref ref = true) (hfits : kind.Fits v)
    (htyped : v.Typed builder) : Matched builder builders kind v v :=
  ⟨hfits, hfits, htyped, htyped, Value.alike_self hbuilders v⟩

/-- Records that are matched have one form, and their fields are matched. -/
theorem fields {form form' : Form} (h : Matched builder builders kind (.record form vs)
    (.record form' ws)) : form = form' ∧ MatchedAll builder builders form.keptKinds vs ws := by
  obtain ⟨rfl, halike⟩ := Value.alike_record_iff.mp h.alike
  exact ⟨rfl, matchedAll_of_fields h.typed.fits h.typed'.fits h.typed.fields h.typed'.fields halike⟩

theorem record {forms : List Form} (h : Matched builder builders (.record forms) v w) :
    ∃ form ∈ forms, ∃ vs ws, v = .record form vs ∧ w = .record form ws ∧
      MatchedAll builder builders form.keptKinds vs ws := by
  obtain ⟨form, hform, vs, rfl⟩ := h.fits
  obtain ⟨form', -, ws, rfl⟩ := h.fits'
  obtain ⟨rfl, hfields⟩ := h.fields
  exact ⟨form, hform, vs, ws, rfl, rfl, hfields⟩

/-- A field that may be absent is so in both, or in neither. -/
theorem optional (h : Matched builder builders (.optional kind) v w) :
    (v = .absent ∧ w = .absent) ∨ Matched builder builders kind v w := by
  obtain ⟨hfits, hfits', htyped, htyped', halike⟩ := h
  rcases hfits with rfl | hfits
  · exact Or.inl ⟨rfl, (Value.alike_absent_iff halike).mp rfl⟩
  · rcases hfits' with rfl | hfits'
    · exact Or.inl ⟨(Value.alike_absent_iff halike).mpr rfl, rfl⟩
    · exact Or.inr ⟨hfits, hfits', htyped, htyped', halike⟩

theorem items {item : Kind} (h : Matched builder builders (.tuple item) v w) :
    ∃ vs ws, v = .tuple vs ∧ w = .tuple ws ∧
      List.Forall₂ (Matched builder builders item) vs ws := by
  obtain ⟨vs, rfl, hfits⟩ := h.fits
  obtain ⟨ws, rfl, hfits'⟩ := h.fits'
  exact ⟨vs, ws, rfl, rfl, matched_of_items hfits hfits' h.typed.items h.typed'.items
    (Value.alike_tuple_iff.mp h.alike)⟩

theorem readInt (h : Matched builder builders .integer v w) : Agree Eq v.readInt w.readInt := by
  obtain ⟨m, rfl⟩ := h.fits
  obtain ⟨n, rfl⟩ := h.fits'
  exact agree_pure (Value.alike_int_iff.mp h.alike)

theorem readFlag (h : Matched builder builders .flag v w) : Agree Eq v.readFlag w.readFlag := by
  obtain ⟨a, rfl⟩ := h.fits
  obtain ⟨b, rfl⟩ := h.fits'
  exact agree_pure (Value.alike_flag_iff.mp h.alike)

theorem readText (h : Matched builder builders .text v w) : Agree Eq v.readText w.readText := by
  rcases h.fits with ⟨s, rfl⟩ | ⟨s, rfl⟩ <;> rcases h.fits' with ⟨t, rfl⟩ | ⟨t, rfl⟩ <;>
    exact agree_pure (Value.label_eq_of_alike h.alike rfl rfl)

/-- Numbers that are alike may be held in two ways, but they are written alike. -/
theorem readNumber (h : Matched builder builders .number v w) :
    Agree (fun m n => m.render = n.render) v.readNumber w.readNumber := by
  have halike {m n : Number} (hm : v.number? = some m) (hn : w.number? = some n) :
      m.render = n.render := by
    rcases Value.number_of_alike h.alike hm hn with hsame | ⟨which, rfl, rfl⟩
    · exact Number.render_eq_of_same hsame
    · rfl
  rcases h.fits with ⟨m, rfl⟩ | ⟨x, rfl⟩ <;> rcases h.fits' with ⟨n, rfl⟩ | ⟨y, rfl⟩ <;>
    exact agree_pure (halike rfl rfl)

/-- A word of a keyword list is found in it again, and is the only one of its text. -/
theorem readWord {α : Type} [Keyword α] {distinct : ((Keyword.words α).map Word.text).Nodup}
    (h : Matched builder builders (.keyword α distinct) v w) :
    Agree Eq (v.readWord : Reading α) w.readWord := by
  obtain ⟨a, ha, rfl⟩ := h.fits
  obtain ⟨b, hb, rfl⟩ := h.fits'
  obtain rfl : a = b :=
    List.inj_on_of_nodup_map distinct ha hb (Value.label_eq_of_alike h.alike rfl rfl)
  obtain ⟨member, hmember⟩ := Keyword.exists_ofWord? ha
  have hread : (Value.keyword a).readWord = .ok member := by simp only [Value.readWord, hmember]
  exact ⟨member, member, hread, hread, rfl⟩

/-- A reader that lets a value be absent reads all other values as before. -/
theorem readOptional {α : Type} {read : Value → Reading α}
    {readOptional : Value → Reading (Option α)} (habsent : readOptional .absent = .ok none)
    (hpresent : ∀ u, u ≠ .absent → readOptional u = some <$> read u)
    (hread : ∀ {v w}, Matched builder builders kind v w → Agree Eq (read v) (read w))
    (hkind : ¬ kind.Fits .absent) (h : Matched builder builders (.optional kind) v w) :
    Agree Eq (readOptional v) (readOptional w) := by
  rcases h.optional with ⟨rfl, rfl⟩ | h
  · rw [habsent]
    exact agree_pure rfl
  · rw [hpresent v (by rintro rfl; exact hkind h.fits), hpresent w (by rintro rfl; exact hkind h.fits')]
    exact (hread h).same fun _ => rfl

theorem readTextOptional (h : Matched builder builders (.optional .text) v w) :
    Agree Eq v.readTextOptional w.readTextOptional :=
  h.readOptional rfl (fun u hu => by cases u <;> first | rfl | exact absurd rfl hu)
    (fun h => h.readText) (by simp [Kind.Fits, Value.IsText])

theorem readIntOptional (h : Matched builder builders (.optional .integer) v w) :
    Agree Eq v.readIntOptional w.readIntOptional :=
  h.readOptional rfl (fun u hu => by cases u <;> first | rfl | exact absurd rfl hu)
    (fun h => h.readInt) (by simp [Kind.Fits])

theorem readWordOptional {α : Type} [Keyword α]
    {distinct : ((Keyword.words α).map Word.text).Nodup}
    (h : Matched builder builders (.optional (.keyword α distinct)) v w) :
    Agree Eq (v.readWordOptional : Reading (Option α)) w.readWordOptional :=
  h.readOptional rfl (fun u hu => by cases u <;> first | rfl | exact absurd rfl hu)
    (fun h => h.readWord) (by simp [Kind.keyword, Kind.Fits])

/-- A component that passed the check of its colour is read as it is. -/
theorem readComponent {channel : ColorChannel} (h : Matched builder builders .integer v w)
    (hchecked : checkComponent channel v = .ok ()) : Agree Eq v.readComponent w.readComponent := by
  obtain ⟨m, rfl⟩ := h.fits
  obtain ⟨n, rfl⟩ := h.fits'
  obtain rfl := Value.alike_int_iff.mp h.alike
  have hrange : 0 ≤ m ∧ m < 256 := by
    simp only [checkComponent, Bool.and_eq_true, decide_eq_true_eq] at hchecked
    split at hchecked
    · omega
    · cases hchecked
  exact ⟨_, _, Value.readComponent_int hrange, Value.readComponent_int hrange, rfl⟩

end Matched

theorem checkColor_eq_ok {red green blue alpha : Value} (h : checkColor red green blue alpha = .ok ()) :
    checkComponent .red red = .ok () ∧ checkComponent .green green = .ok () ∧
      checkComponent .blue blue = .ok () ∧ checkComponent .alpha alpha = .ok () := by
  obtain ⟨_, hred, h⟩ := bind_eq_ok.mp h
  obtain ⟨_, hgreen, h⟩ := bind_eq_ok.mp h
  obtain ⟨_, hblue, halpha⟩ := bind_eq_ok.mp h
  exact ⟨hred, hgreen, hblue, halpha⟩

/-- Whether the values of a kind are arguments of commands. -/
def Kind.isArgument : Kind → Bool
  | .text | .integer | .word _ _ => true
  | .record forms => forms.all fun form => (form matches .argument _)
  | .either left right => left.isArgument && right.isArgument
  | _ => false

/-- A value that is an argument is a text, an integer or a record of one of the forms of arguments. -/
theorem Kind.argument_cases (hkind : kind.isArgument = true) (h : kind.Fits v) :
    v.IsText ∨ (∃ n, v = .int n) ∨ ∃ form fields, v = .record (.argument form) fields := by
  induction kind with
  | text => exact Or.inl h
  | integer => exact Or.inr (Or.inl h)
  | word =>
      obtain ⟨w, -, rfl⟩ := h
      exact Or.inl (Or.inr ⟨w, rfl⟩)
  | record forms =>
      obtain ⟨form, hform, fields, rfl⟩ := h
      have hargument := List.all_eq_true.mp hkind form hform
      cases form <;> first | exact Or.inr (Or.inr ⟨_, _, rfl⟩) | cases hargument
  | either left right ihl ihr =>
      obtain ⟨hl, hr⟩ := Bool.and_eq_true_iff.mp hkind
      exact h.elim (ihl hl) (ihr hr)
  | _ => cases hkind

namespace Matched

theorem readWholeNumber (h : Matched builder builders .integer v w) :
    Agree Eq v.readNumber w.readNumber := by
  obtain ⟨m, rfl⟩ := h.fits
  obtain ⟨n, rfl⟩ := h.fits'
  exact agree_pure (congrArg Number.int (Value.alike_int_iff.mp h.alike))

theorem readAlpha (h : Matched builder builders (.optional .integer) v w)
    (hchecked : checkComponent .alpha v = .ok ()) : Agree Eq v.readAlpha w.readAlpha := by
  rcases h.optional with ⟨rfl, rfl⟩ | h
  · exact agree_pure rfl
  · obtain ⟨m, rfl⟩ := h.fits
    obtain ⟨n, rfl⟩ := h.fits'
    exact (h.readComponent hchecked).same fun _ => rfl

/-- The name of a workspace, with or without a number. -/
theorem readWorkspaceName
    (h : MatchedAll builder builders (Form.argument .workspaceName).keptKinds vs ws) :
    Agree Eq (Value.record (.argument .workspaceName) vs).readArgument
      (Value.record (.argument .workspaceName) ws).readArgument := by
  obtain _ | ⟨name, _ | ⟨number, _ | _⟩⟩ := h
  exact name.readText.next fun _ => number.readIntOptional.next fun _ => agree_pure rfl

theorem readArgumentRecord {form : ArgumentForm}
    (hchecked : checkRecord (.argument form) vs = .ok ())
    (h : MatchedAll builder builders (Form.argument form).keptKinds vs ws) :
    Agree Eq (Value.record (.argument form) vs).readArgument
      (Value.record (.argument form) ws).readArgument := by
  cases form with
  | focused =>
      obtain _ | _ := h
      exact agree_pure rfl
  | outputName =>
      obtain _ | ⟨name, _ | _⟩ := h
      exact name.readText.same fun _ => rfl
  | workspaceName => exact readWorkspaceName h
  | workspaceNumber =>
      obtain _ | ⟨workspace, _ | _⟩ := h
      obtain ⟨form, hform, _, _, rfl, rfl, hname⟩ := workspace.record
      obtain rfl := List.mem_singleton.mp hform
      exact (readWorkspaceName hname).same fun _ => rfl
  | length =>
      obtain _ | ⟨amount, _ | ⟨unit, _ | _⟩⟩ := h
      exact amount.readWholeNumber.next fun _ => unit.readWordOptional.next fun _ => agree_pure rfl
  | color =>
      obtain _ | ⟨red, _ | ⟨green, _ | ⟨blue, _ | ⟨alpha, _ | _⟩⟩⟩⟩ := h
      obtain ⟨hred, hgreen, hblue, halpha⟩ := checkColor_eq_ok hchecked
      have hcolor := (red.readComponent hred).next fun r => (green.readComponent hgreen).next fun g =>
        (blue.readComponent hblue).next fun b => (alpha.readAlpha halpha).next fun a =>
          agree_pure (rfl : (⟨r, g, b, a⟩ : Color) = ⟨r, g, b, a⟩)
      exact hcolor.same fun _ => rfl

/-- Arguments that are alike are read as one argument. -/
theorem readArgument (h : Matched builder builders kind v w) (hkind : kind.isArgument = true) :
    Agree Eq v.readArgument w.readArgument := by
  have halike := h.alike
  rcases Kind.argument_cases hkind h.fits with (⟨s, rfl⟩ | ⟨s, rfl⟩) | ⟨m, rfl⟩ | ⟨form, vs, rfl⟩ <;>
    rcases Kind.argument_cases hkind h.fits' with
      (⟨t, rfl⟩ | ⟨t, rfl⟩) | ⟨n, rfl⟩ | ⟨form', ws, rfl⟩ <;>
    first
    | exact agree_pure (congrArg Argument.word (Value.label_eq_of_alike halike rfl rfl))
    | exact agree_pure (congrArg (Argument.number ∘ Number.int) (Value.alike_int_iff.mp halike))
    | (obtain ⟨⟨⟩, hfields⟩ := h.fields
       exact readArgumentRecord h.typed.checked hfields)
    | cases Value.shape_eq_of_alike halike

theorem readArgumentOptional (h : Matched builder builders (.optional kind) v w)
    (hkind : kind.isArgument = true) : Agree Eq v.readArgumentOptional w.readArgumentOptional :=
  h.readOptional rfl (fun u hu => by cases u <;> first | rfl | exact absurd rfl hu)
    (fun h => h.readArgument hkind) fun habsent => by
      rcases Kind.argument_cases hkind habsent with (⟨_, h⟩ | ⟨_, h⟩) | ⟨_, h⟩ | ⟨_, _, h⟩ <;> cases h

/-- Items of a tuple that are alike one by one are read one by one. -/
theorem readItems {α : Type} {read : Value → Reading α} (h : Matched builder builders (.tuple kind) v w)
    (hread : ∀ {v w}, Matched builder builders kind v w → Agree Eq (read v) (read w)) :
    Agree Eq (v.readItems read) (w.readItems read) := by
  obtain ⟨vs, ws, rfl, rfl, hitems⟩ := h.items
  exact agree_mapM (hitems.imp fun _ _ hvw => hread hvw)

end Matched

/-- Which form a criterion is of. -/
def Criterion.form : Criterion → CriterionForm
  | .floating => .floating
  | .tiling => .tiling
  | .property key _ => .property key

theorem CriterionKey.isArgument_kind (key : CriterionKey) : key.kind.kept.isArgument = true := by
  cases key <;> rfl

namespace Matched

theorem readCriterion (h : Matched builder builders .criterion v w) :
    Agree Eq v.readCriterion w.readCriterion := by
  obtain ⟨form, vs, rfl⟩ := h.fits
  obtain ⟨form', ws, rfl⟩ := h.fits'
  obtain ⟨⟨⟩, hfields⟩ := h.fields
  cases form with
  | floating | tiling =>
      obtain _ | _ := hfields
      exact agree_pure rfl
  | property key =>
      obtain _ | ⟨value, _ | _⟩ := hfields
      exact (value.readArgument key.isArgument_kind).same fun _ => rfl

/-! ### Fonts -/

theorem readFontOptions (h : Matched builder builders (.record [.font .options]) v w) :
    Agree Eq v.readFontOptions w.readFontOptions := by
  obtain ⟨form, hform, vs, ws, rfl, rfl, hfields⟩ := h.record
  obtain rfl := List.mem_singleton.mp hform
  obtain _ | ⟨style, _ | ⟨variant, _ | ⟨weight, _ | ⟨stretch, _ | ⟨gravity, _ | _⟩⟩⟩⟩⟩ := hfields
  exact (style.readArgumentOptional rfl).next fun _ => (variant.readArgumentOptional rfl).next fun _ =>
    (weight.readArgumentOptional rfl).next fun _ => (stretch.readArgumentOptional rfl).next fun _ =>
      (gravity.readArgumentOptional rfl).next fun _ => agree_pure rfl

theorem readFontVariation (h : Matched builder builders (.pair .text .text) v w) :
    Agree Eq v.readFontVariation w.readFontVariation := by
  obtain ⟨axis, value, rfl, haxis, hvalue⟩ := h.fits
  obtain ⟨axis', value', rfl, haxis', hvalue'⟩ := h.fits'
  obtain _ | ⟨hfirst, _ | ⟨hsecond, _ | _⟩⟩ := matchedAll_of_fields (.cons haxis (.cons hvalue .nil))
    (.cons haxis' (.cons hvalue' .nil)) h.typed.items h.typed'.items
    (Value.alike_tuple_iff.mp h.alike)
  exact hfirst.readText.next fun _ => hsecond.readText.next fun _ => agree_pure rfl

/-- A size may be held as an integer and as another number, but is written alike. -/
theorem readFontSize (h : Matched builder builders (.record [.font .size]) v w) :
    Agree (fun a b => a.render = b.render) v.readFontSize w.readFontSize := by
  obtain ⟨form, hform, vs, ws, rfl, rfl, hfields⟩ := h.record
  obtain rfl := List.mem_singleton.mp hform
  obtain _ | ⟨value, _ | ⟨pixels, _ | _⟩⟩ := hfields
  refine value.readNumber.bind fun m n hmn => pixels.readFlag.next fun _ => agree_pure ?_
  simp only [FontSize.render, hmn]

theorem readFontSizeOptional (h : Matched builder builders (.optional (.record [.font .size])) v w) :
    Agree (fun a b => a.elim "" FontSize.render = b.elim "" FontSize.render) v.readFontSizeOptional
      w.readFontSizeOptional := by
  rcases h.optional with ⟨rfl, rfl⟩ | h
  · exact agree_pure rfl
  · have hsize := h.readFontSize
    obtain ⟨form, hform, vs, ws, rfl, rfl, -⟩ := h.record
    exact hsize.map fun _ _ hab => hab

theorem readFontDescription (h : Matched builder builders (.record [.font .description]) v w) :
    Agree (fun a b => a.render = b.render) v.readFontDescription w.readFontDescription := by
  obtain ⟨form, hform, vs, ws, rfl, rfl, hfields⟩ := h.record
  obtain rfl := List.mem_singleton.mp hform
  obtain _ | ⟨families, _ | ⟨options, _ | ⟨size, _ | ⟨variations, _ | _⟩⟩⟩⟩ := hfields
  refine (families.readItems fun h => h.readText).next fun _ =>
    size.readFontSizeOptional.bind fun a b hab =>
      (variations.readItems fun h => h.readFontVariation).next fun _ =>
        options.readFontOptions.next fun _ => agree_pure ?_
  simp only [FontDescription.render, FontDescription.slots, hab]

theorem readFont (h : Matched builder builders (.record [.font .font]) v w) :
    Agree (fun a b => a.render = b.render) v.readFont w.readFont := by
  obtain ⟨form, hform, vs, ws, rfl, rfl, hfields⟩ := h.record
  obtain rfl := List.mem_singleton.mp hform
  obtain _ | ⟨description, _ | ⟨pango, _ | _⟩⟩ := hfields
  refine description.readFontDescription.bind fun a b hab => pango.readFlag.next fun _ =>
    agree_pure ?_
  simp only [Font.render, hab]

/-! ### Arguments of sub-commands -/

theorem readBorderStyle (h : Matched builder builders (.record [.window .borderStyle]) v w) :
    Agree Eq v.readBorderStyle w.readBorderStyle := by
  obtain ⟨form, hform, vs, ws, rfl, rfl, hfields⟩ := h.record
  obtain rfl := List.mem_singleton.mp hform
  obtain _ | ⟨word, _ | ⟨thickness, _ | _⟩⟩ := hfields
  refine (word.readWord (α := BorderKind)).next fun style => ?_
  cases style with
  | normal | pixel => exact (thickness.readArgumentOptional rfl).next fun _ => agree_pure rfl
  | none | csd | toggle => exact agree_pure rfl

/-- A word is not like a record, so where one of two alike values is a word both are. -/
theorem word_or_record {words : List Word} {distinct : (words.map Word.text).Nodup}
    {forms : List Form} (h : Matched builder builders (.either (.word words distinct) (.record forms)) v w) :
    (Matched builder builders (.word words distinct) v w) ∨
      Matched builder builders (.record forms) v w := by
  obtain ⟨hfits, hfits', htyped, htyped', halike⟩ := h
  rcases hfits with hfits | hfits <;> rcases hfits' with hfits' | hfits'
  · exact Or.inl ⟨hfits, hfits', htyped, htyped', halike⟩
  · obtain ⟨a, -, rfl⟩ := hfits
    obtain ⟨form, -, fields, rfl⟩ := hfits'
    cases Value.shape_eq_of_alike halike
  · obtain ⟨a, -, rfl⟩ := hfits'
    obtain ⟨form, -, fields, rfl⟩ := hfits
    cases Value.shape_eq_of_alike halike
  · exact Or.inr ⟨hfits, hfits', htyped, htyped', halike⟩

theorem readFocusTarget (h : Matched builder builders (.either (.keyword FocusPlace (by decide))
      (.record [.window .focusCycle, .window .focusOutput])) v w) :
    Agree Eq v.readFocusTarget w.readFocusTarget := by
  rcases h.word_or_record with h | h
  · have hread := h.readArgument rfl
    obtain ⟨a, -, rfl⟩ := h.fits
    obtain ⟨b, -, rfl⟩ := h.fits'
    exact hread.same fun _ => rfl
  · obtain ⟨form, hform, vs, ws, rfl, rfl, hfields⟩ := h.record
    simp only [List.mem_cons, List.not_mem_nil, or_false] at hform
    rcases hform with rfl | rfl
    · obtain _ | ⟨direction, _ | ⟨sibling, _ | _⟩⟩ := hfields
      exact direction.readWord.next fun _ => sibling.readFlag.next fun _ => agree_pure rfl
    · obtain _ | ⟨output, _ | _⟩ := hfields
      exact (output.readArgument rfl).same fun _ => rfl

theorem readLayoutTarget (h : Matched builder builders (.either (.keyword LayoutMode (by decide))
      (.record [.window .layoutToggle])) v w) :
    Agree Eq v.readLayoutTarget w.readLayoutTarget := by
  rcases h.word_or_record with h | h
  · have hread := h.readArgument rfl
    obtain ⟨a, -, rfl⟩ := h.fits
    obtain ⟨b, -, rfl⟩ := h.fits'
    exact hread.same fun _ => rfl
  · obtain ⟨form, hform, vs, ws, rfl, rfl, hfields⟩ := h.record
    obtain rfl := List.mem_singleton.mp hform
    obtain _ | ⟨hword, _ | _⟩ := hfields
    rcases hword.optional with ⟨rfl, rfl⟩ | ⟨hfits, hfits', htyped, htyped', halike⟩
    · exact agree_pure rfl
    rcases hfits with hfits | hfits <;> rcases hfits' with hfits' | hfits'
    · have hread := (Matched.mk hfits hfits' htyped htyped' halike).readArgument rfl
      obtain ⟨a, -, rfl⟩ := hfits
      obtain ⟨b, -, rfl⟩ := hfits'
      exact hread.same fun _ => rfl
    · obtain ⟨a, -, rfl⟩ := hfits
      obtain ⟨items, rfl, -⟩ := hfits'
      cases Value.shape_eq_of_alike halike
    · obtain ⟨a, -, rfl⟩ := hfits'
      obtain ⟨items, rfl, -⟩ := hfits
      cases Value.shape_eq_of_alike halike
    · obtain ⟨vs, ws, rfl, rfl, hitems⟩ := (Matched.mk hfits hfits' htyped htyped' halike).items
      exact (agree_mapM (hitems.imp fun _ _ hvw => hvw.readArgument rfl)).same fun _ => rfl

theorem readMoveTarget (h : Matched builder builders (.either (.keyword MovePlacement (by decide))
      (.record [.window .moveDirection, .window .movePosition, .window .moveAbsolutePosition,
        .window .moveToMark, .window .moveToWorkspace, .window .moveContainerToOutput,
        .window .moveWorkspaceToOutput])) v w) :
    Agree Eq v.readMoveTarget w.readMoveTarget := by
  rcases h.word_or_record with h | h
  · have hread := h.readArgument rfl
    obtain ⟨a, -, rfl⟩ := h.fits
    obtain ⟨b, -, rfl⟩ := h.fits'
    exact hread.same fun _ => rfl
  · obtain ⟨form, hform, vs, ws, rfl, rfl, hfields⟩ := h.record
    simp only [List.mem_cons, List.not_mem_nil, or_false] at hform
    rcases hform with rfl | rfl | rfl | rfl | rfl | rfl | rfl
    · obtain _ | ⟨direction, _ | ⟨pixels, _ | _⟩⟩ := hfields
      exact direction.readWord.next fun _ => pixels.readInt.next fun _ => agree_pure rfl
    · obtain _ | ⟨x, _ | ⟨y, _ | _⟩⟩ := hfields
      exact (x.readArgument rfl).next fun _ => (y.readArgument rfl).next fun _ => agree_pure rfl
    · obtain _ | ⟨x, _ | ⟨y, _ | _⟩⟩ := hfields
      exact x.readInt.next fun _ => y.readInt.next fun _ => agree_pure rfl
    · obtain _ | ⟨mark, _ | _⟩ := hfields
      exact mark.readText.same fun _ => rfl
    · obtain _ | ⟨workspace, _ | ⟨flag, _ | _⟩⟩ := hfields
      exact (workspace.readArgument rfl).next fun _ => flag.readFlag.next fun _ => agree_pure rfl
    · obtain _ | ⟨output, _ | _⟩ := hfields
      exact (output.readArgument rfl).same fun _ => rfl
    · obtain _ | ⟨output, _ | _⟩ := hfields
      exact (output.readArgument rfl).same fun _ => rfl

theorem readResize (h : Matched builder builders (.record [.window .resizeBy, .window .resizeSet]) v w) :
    Agree Eq v.readResize w.readResize := by
  obtain ⟨form, hform, vs, ws, rfl, rfl, hfields⟩ := h.record
  simp only [List.mem_cons, List.not_mem_nil, or_false] at hform
  rcases hform with rfl | rfl
  · obtain _ | ⟨action, _ | ⟨dimension, _ | ⟨amount, _ | _⟩⟩⟩ := hfields
    exact action.readWord.next fun _ => dimension.readWord.next fun _ =>
      (amount.readArgument rfl).next fun _ => agree_pure rfl
  · obtain _ | ⟨width, _ | ⟨height, _ | _⟩⟩ := hfields
    rcases height.optional with ⟨rfl, rfl⟩ | height
    · exact (width.readArgumentOptional rfl).same fun _ => rfl
    have hheight := height.readArgument rfl
    obtain ⟨_, -, _, _, rfl, rfl, -⟩ := height.record
    rcases width.optional with ⟨rfl, rfl⟩ | width
    · exact hheight.same fun _ => rfl
    have hwidth := width.readArgument rfl
    obtain ⟨_, -, _, _, rfl, rfl, -⟩ := width.record
    exact hwidth.next fun _ => hheight.next fun _ => agree_pure rfl

end Matched

/-- Which form a sub-command is of. -/
def SubCommand.form : SubCommand → SubCommandForm
  | .border .. => .border
  | .exit => .exit
  | .floating .. => .floating
  | .focus .. => .focus
  | .fullscreen .. => .fullscreen
  | .gaps .. => .gaps
  | .inhibitIdle .. => .inhibitIdle
  | .kill => .kill
  | .layout .. => .layout
  | .mark .. => .mark
  | .maxRenderTime .. => .maxRenderTime
  | .move .. => .move
  | .nop .. => .nop
  | .opacity .. => .opacity
  | .reload => .reload
  | .renameWorkspace .. => .renameWorkspace
  | .resize .. => .resize
  | .scratchpadShow => .scratchpadShow
  | .shortcutsInhibitor .. => .shortcutsInhibitor
  | .split .. => .split
  | .sticky .. => .sticky
  | .swap .. => .swap
  | .titleFormat .. => .titleFormat
  | .unmark .. => .unmark
  | .urgentHint .. => .urgentHint

namespace Matched

/-- Sub-commands that are alike are written alike. -/
theorem readSubCommandFields {form : SubCommandForm}
    (h : MatchedAll builder builders (Form.subCommand form).keptKinds vs ws) :
    Agree (fun a b => a.render = b.render) (Value.readSubCommandFields form vs)
      (Value.readSubCommandFields form ws) := by
  cases form with
  | border =>
      obtain _ | ⟨style, _ | _⟩ := h
      exact style.readBorderStyle.same fun _ => rfl
  | exit | kill | reload | scratchpadShow =>
      obtain _ | _ := h
      exact agree_pure rfl
  | floating | sticky | inhibitIdle | shortcutsInhibitor | split | urgentHint =>
      obtain _ | ⟨word, _ | _⟩ := h
      exact word.readWord.same fun _ => rfl
  | focus =>
      obtain _ | ⟨target, _ | _⟩ := h
      exact target.readFocusTarget.same fun _ => rfl
  | fullscreen =>
      obtain _ | ⟨state, _ | ⟨flag, _ | _⟩⟩ := h
      exact state.readWord.next fun _ => flag.readFlag.next fun _ => agree_pure rfl
  | gaps =>
      obtain _ | ⟨side, _ | ⟨scope, _ | ⟨change, _ | ⟨amount, _ | _⟩⟩⟩⟩ := h
      exact side.readWord.next fun _ => scope.readWord.next fun _ => change.readWord.next fun _ =>
        amount.readInt.next fun _ => agree_pure rfl
  | layout =>
      obtain _ | ⟨target, _ | _⟩ := h
      exact target.readLayoutTarget.same fun _ => rfl
  | mark =>
      obtain _ | ⟨identifier, _ | ⟨mode, _ | _⟩⟩ := h
      exact identifier.readText.next fun _ => mode.readWord.next fun _ => agree_pure rfl
  | maxRenderTime =>
      obtain _ | ⟨milliseconds, _ | _⟩ := h
      exact milliseconds.readIntOptional.same fun _ => rfl
  | move =>
      obtain _ | ⟨target, _ | _⟩ := h
      exact target.readMoveTarget.same fun _ => rfl
  | nop | unmark =>
      obtain _ | ⟨text, _ | _⟩ := h
      exact (text.readArgumentOptional rfl).same fun _ => rfl
  | opacity =>
      obtain _ | ⟨change, _ | ⟨value, _ | _⟩⟩ := h
      refine change.readWord.next fun _ => value.readNumber.bind fun m n hmn => agree_pure ?_
      simp only [SubCommand.render, hmn]
  | renameWorkspace =>
      obtain _ | ⟨newName, _ | ⟨oldName, _ | _⟩⟩ := h
      exact newName.readText.next fun _ => oldName.readTextOptional.next fun _ => agree_pure rfl
  | resize =>
      obtain _ | ⟨change, _ | _⟩ := h
      exact change.readResize.same fun _ => rfl
  | swap =>
      obtain _ | ⟨kind, _ | ⟨value, _ | _⟩⟩ := h
      exact kind.readWord.next fun _ => value.readText.next fun _ => agree_pure rfl
  | titleFormat =>
      obtain _ | ⟨format, _ | _⟩ := h
      exact format.readText.same fun _ => rfl

end Matched
end SwayControl
