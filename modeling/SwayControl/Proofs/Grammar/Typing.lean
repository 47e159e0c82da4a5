import SwayControl.Proofs.Grammar.Kind
import SwayControl.Proofs.Success

/-!
Well-typed values. A value is well typed if each record in it has fields of the kinds that its form keeps
and passes the checks of its form; the values that fields take when they are left out are.
-/

namespace SwayControl

namespace Value

mutual

/-- Whether every record in a value has fields of the kinds that its form keeps and passes the checks of
its form. What counts for a builder is given. -/
def Typed (builder : Ref → Prop) : Value → Prop
  | .tuple items => TypedAll builder items
  | .record form fields =>
    List.Forall₂ Kind.Fits form.keptKinds fields ∧ checkRecord form fields = .ok () ∧
      TypedAll builder fields
  | .builder ref => builder ref
  | _ => True

/-- Whether some values are well typed. -/
def TypedAll (builder : Ref → Prop) : List Value → Prop
  | [] => True
  | value :: rest => value.Typed builder ∧ TypedAll builder rest

end

variable {builder builder' : Ref → Prop} {v : Value} {vs : List Value} {form : Form}

theorem typedAll_iff : TypedAll builder vs ↔ ∀ v ∈ vs, v.Typed builder := by
  induction vs with
  | nil => exact iff_of_true trivial (List.forall_mem_nil _)
  | cons v rest ih => exact (and_congr_right' ih).trans List.forall_mem_cons.symm

theorem Typed.items (h : (tuple vs).Typed builder) : ∀ v ∈ vs, v.Typed builder := typedAll_iff.mp h

theorem Typed.fits (h : (record form vs).Typed builder) : List.Forall₂ Kind.Fits form.keptKinds vs :=
  h.1

theorem Typed.checked (h : (record form vs).Typed builder) : checkRecord form vs = .ok () := h.2.1

theorem Typed.fields (h : (record form vs).Typed builder) : ∀ v ∈ vs, v.Typed builder :=
  typedAll_iff.mp h.2.2

theorem Typed.ref {ref : Ref} (h : (Value.builder ref).Typed builder) : builder ref := h

theorem typed_builder {ref : Ref} (h : builder ref) : (Value.builder ref).Typed builder := h

theorem typed_record (hfits : List.Forall₂ Kind.Fits form.keptKinds vs)
    (hchecked : checkRecord form vs = .ok ()) (hfields : ∀ v ∈ vs, v.Typed builder) :
    (record form vs).Typed builder :=
  ⟨hfits, hchecked, typedAll_iff.mpr hfields⟩

theorem typed_tuple (hitems : ∀ v ∈ vs, v.Typed builder) : (tuple vs).Typed builder :=
  typedAll_iff.mpr hitems

mutual

/-- A value stays well typed where more counts for builders. -/
theorem Typed.mono (hbuilder : ∀ ref, builder ref → builder' ref) :
    ∀ v : Value, v.Typed builder → v.Typed builder'
  | .tuple items, h => TypedAll.mono hbuilder items h
  | .record _ fields, h => ⟨h.1, h.2.1, TypedAll.mono hbuilder fields h.2.2⟩
  | .builder ref, h => hbuilder ref h
  | .absent, _ => trivial
  | .flag _, _ => trivial
  | .int _, _ => trivial
  | .real _, _ => trivial
  | .text _, _ => trivial
  | .keyword _, _ => trivial

theorem TypedAll.mono (hbuilder : ∀ ref, builder ref → builder' ref) :
    ∀ vs : List Value, TypedAll builder vs → TypedAll builder' vs
  | [], _ => trivial
  | v :: rest, h => ⟨Typed.mono hbuilder v h.1, TypedAll.mono hbuilder rest h.2⟩

end

/-- What is made of a text or a keyword is well typed whatever counts for builders. -/
theorem IsText.typed (h : v.IsText) : v.Typed builder := by
  rcases h with ⟨t, rfl⟩ | ⟨w, rfl⟩ <;> trivial

end Value

/-- Values that kinds do not tell apart: two records of one form, two groups or two units. -/
inductive Value.Resembles : Value → Value → Prop
  | record (form : Form) (fields fields' : List Value) : Resembles (.record form fields) (.record form fields')
  | group (i j : Nat) : Resembles (.builder (.group i)) (.builder (.group j))
  | unit (i j : Nat) : Resembles (.builder (.unit i)) (.builder (.unit j))

theorem Kind.Fits.of_resembles {v w : Value} (h : v.Resembles w) {kind : Kind} (hfits : kind.Fits v) :
    kind.Fits w := by
  induction kind with
  | either left right ihl ihr => exact hfits.imp ihl ihr
  | _ => cases h <;> simp_all [Fits, Value.IsText, Value.IsEntry, Value.IsSubCommand]

theorem Keyword.word_mem {α : Type} [Keyword α] {a : α} (h : a ∈ (Keyword.all : List α)) :
    Keyword.word a ∈ Keyword.words α :=
  List.mem_map_of_mem h

namespace Form

open Keyword (word_mem)

theorem length_kinds (form : Form) : form.kinds.length = form.signature.fields.length := by
  rcases form with f | f | f | f | f | f | f | f | _ <;> first | rfl | (cases f <;> rfl)

section

variable {builder : Ref → Prop}

/-- What stands for options that are left out is well typed. -/
theorem typed_defaults : noModifiers.Typed builder ∧ noBindFlags.Typed builder ∧
    noSwitchFlags.Typed builder ∧ noFontOptions.Typed builder := by
  simp [noModifiers, noBindFlags, noSwitchFlags, noFontOptions, Value.Typed, Value.TypedAll, keptKinds,
    kinds, BindingForm.kinds, FontForm.kinds, Kind.kept, Kind.Fits, Kind.optional, checkRecord,
    List.replicate]

/-- What a field takes when it is left out is of its kind and well typed. -/
theorem fallback_fits (form : Form) : ∀ slot ∈ form.signature.fields.zip form.kinds,
    ∀ v, slot.1.fallback = some v → slot.2.Fits v ∧ v.Typed builder := by
  obtain ⟨hmodifiers, hbindFlags, hswitchFlags, hfontOptions⟩ := @typed_defaults builder
  cases form with
  | argument f =>
      cases f <;> simp [signature, ArgumentForm.signature, needed, SwayControl.optional, kinds,
        ArgumentForm.kinds, Kind.optional, Kind.Fits, Value.Typed]
  | criterion f =>
      cases f <;> simp [signature, CriterionForm.signature, needed, kinds, CriterionForm.kinds]
  | font f =>
      cases f <;> simp [signature, FontForm.signature, needed, SwayControl.optional, kinds,
        FontForm.kinds, Kind.optional, Kind.Fits, Value.Typed, Value.TypedAll]
      case description => exact ⟨⟨_, rfl⟩, hfontOptions⟩
  | window f =>
      cases f <;> simp [signature, WindowForm.signature, needed, SwayControl.optional, kinds,
        WindowForm.kinds, Kind.optional, Kind.Fits, Value.Typed]
  | subCommand f =>
      cases f <;> simp [signature, SubCommandForm.signature, needed, SwayControl.optional, kinds,
        SubCommandForm.kinds, Kind.optional, Kind.Fits, Value.Typed, Value.word, Kind.keyword]
      case mark => exact word_mem (by decide)
  | binding f =>
      cases f <;> simp [signature, BindingForm.signature, needed, SwayControl.optional, kinds,
        BindingForm.kinds, Kind.optional, Kind.Fits, Value.Typed, Value.word, Kind.keyword]
      case symKey => exact ⟨⟨⟨_, rfl⟩, hmodifiers⟩, word_mem (by decide)⟩
      case codeKey => exact ⟨⟨_, rfl⟩, hmodifiers⟩
  | topLevel f =>
      cases f <;> simp [signature, TopLevelForm.signature, needed, SwayControl.optional, kinds,
        TopLevelForm.kinds, Kind.optional, Kind.Fits, Value.Typed, Value.TypedAll, Value.word,
        Kind.keyword]
      case floatingModifier => exact word_mem (by decide)
      case bindswitch => exact ⟨⟨_, rfl⟩, hswitchFlags⟩
      all_goals exact ⟨⟨_, rfl⟩, hbindFlags⟩
  | configLine f =>
      cases f <;> simp [signature, ConfigLineForm.signature, needed, SwayControl.optional, kinds,
        ConfigLineForm.kinds, Kind.optional, Kind.Fits, Value.Typed, Value.TypedAll]
  | raw => simp [signature, needed, kinds]

end

end Form

end SwayControl
