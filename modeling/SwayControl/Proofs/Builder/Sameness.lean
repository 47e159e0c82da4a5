import Mathlib.Data.List.Forall2
import SwayControl.Builder.Sameness

/-!
Sameness of values. What is held is the same as itself, also where it is not a number. Values that are
alike have the same shape: records of one form with fields that are alike, tuples with items that are,
and atoms of one text or one number.
-/

namespace SwayControl

section

variable {builders : Ref → Ref → Bool}

theorem Number.same_self {n : Number} (h : ∀ which, n ≠ .real (.nan which)) : n.same n = true := by
  cases n with
  | int n => exact beq_self_eq_true n
  | real x =>
      cases x with
      | nan which => exact absurd rfl (h which)
      | infinite negative => exact beq_self_eq_true _
      | finite negative mantissa exponent canonical =>
          cases mantissa with
          | zero => rfl
          | succ mantissa => exact beq_self_eq_true _

theorem Value.sameAtom_self (value : Value) (n : Number) (hnumber : value.number? = some n)
    (h : ∀ which, n ≠ .real (.nan which)) : value.sameAtom value = true := by
  simp only [Value.sameAtom, hnumber, Number.same_self h]

mutual

/-- What is held is the same as itself. -/
theorem Value.same_self (hbuilders : ∀ ref, builders ref ref = true) (value : Value) :
    (value.sameNan value || Value.same builders value value) = true := by
  cases value with
  | absent => rfl
  | flag on => exact Value.sameAtom_self (.flag on) (.int (if on then 1 else 0)) rfl (by rintro which ⟨⟩)
  | int n => exact Value.sameAtom_self (.int n) (.int n) rfl (by rintro which ⟨⟩)
  | real x =>
      cases x with
      | nan which =>
          have hnan : (Value.real (.nan which)).sameNan (.real (.nan which)) = true :=
            beq_self_eq_true which
          rw [hnan, Bool.true_or]
      | infinite negative =>
          exact Value.sameAtom_self (.real (.infinite negative)) _ rfl (by rintro which ⟨⟩)
      | finite negative mantissa exponent canonical =>
          exact Value.sameAtom_self (.real (.finite negative mantissa exponent canonical)) _ rfl
            (by rintro which ⟨⟩)
  | text t => exact beq_self_eq_true t
  | keyword w => exact beq_self_eq_true w.text
  | tuple items =>
      rw [Value.same, Value.sameAll_self hbuilders items, Bool.or_true]
  | record form fields =>
      rw [Value.same, Value.sameAll_self hbuilders fields, beq_self_eq_true, Bool.and_self, Bool.or_true]
  | builder ref =>
      rw [Value.same, hbuilders ref, Bool.or_true]

theorem Value.sameAll_self (hbuilders : ∀ ref, builders ref ref = true) (values : List Value) :
    Value.sameAll builders values values = true := by
  cases values with
  | nil => rfl
  | cons value rest =>
      rw [Value.sameAll, Value.same_self hbuilders value, Value.sameAll_self hbuilders rest]
      rfl

end

end

theorem Store.sameBuilders_self (s : Store) (depth : Nat) (ref : Ref) :
    s.sameBuilders depth ref ref = true := by
  cases depth with
  | zero => exact beq_self_eq_true ref
  | succ depth => simp [sameBuilders]

namespace Value

/-- Whether two values are the same where a record, a group or a unit holds them: also if they are one
that is not a number. -/
def Alike (builders : Ref → Ref → Bool) (v w : Value) : Prop :=
  (v.sameNan w || Value.same builders v w) = true

variable {builders : Ref → Ref → Bool} {v w : Value}

theorem alike_of_same (h : Value.same builders v w = true) : Alike builders v w := by
  simp only [Alike, h, Bool.or_true]

theorem alike_self (hbuilders : ∀ ref, builders ref ref = true) (v : Value) : Alike builders v v :=
  v.same_self hbuilders

theorem sameAll_iff {vs ws : List Value} :
    Value.sameAll builders vs ws = true ↔ List.Forall₂ (Alike builders) vs ws := by
  induction vs generalizing ws with
  | nil => cases ws <;> simp [Value.sameAll]
  | cons v vs ih =>
      cases ws with
      | nil => simp [Value.sameAll]
      | cons w ws => rw [Value.sameAll, Bool.and_eq_true, List.forall₂_cons, ih, Alike]

theorem alike_record_iff {form form' : Form} {vs ws : List Value} :
    Alike builders (.record form vs) (.record form' ws) ↔
      form = form' ∧ List.Forall₂ (Alike builders) vs ws := by
  simp only [Alike, sameNan, Value.same, Bool.false_or, Bool.and_eq_true, beq_iff_eq, sameAll_iff]

theorem alike_tuple_iff {vs ws : List Value} :
    Alike builders (.tuple vs) (.tuple ws) ↔ List.Forall₂ (Alike builders) vs ws := by
  simp only [Alike, sameNan, Value.same, Bool.false_or, sameAll_iff]

theorem alike_builder_iff {a b : Ref} :
    Alike builders (.builder a) (.builder b) ↔ builders a b = true := by
  simp only [Alike, sameNan, Value.same, Bool.false_or]

theorem alike_int_iff {m n : Int} : Alike builders (.int m) (.int n) ↔ m = n := by
  simp [Alike, sameNan, Value.same, sameAtom, number?, Number.same]

theorem alike_flag_iff {a b : Bool} : Alike builders (.flag a) (.flag b) ↔ a = b := by
  cases a <;> cases b <;> simp [Alike, sameNan, Value.same, sameAtom, number?, Number.same]

/-- Texts and keywords are alike if they have one text. -/
theorem label_eq_of_alike {s t : String} (h : Alike builders v w) (hv : v.label? = some s)
    (hw : w.label? = some t) : s = t := by
  cases v <;> cases hv <;> cases w <;> cases hw <;>
    simpa [Alike, sameNan, Value.same, sameAtom, number?, label?] using h

/-- Numbers are alike if they are the same, or one that is not a number. -/
theorem number_of_alike {m n : Number} (h : Alike builders v w) (hv : v.number? = some m)
    (hw : w.number? = some n) :
    m.same n = true ∨ ∃ which, m = .real (.nan which) ∧ n = .real (.nan which) := by
  have hsame : (v.sameNan w || v.sameAtom w) = true := by
    cases v <;> cases hv <;> cases w <;> cases hw <;> exact h
  rw [Bool.or_eq_true] at hsame
  rcases hsame with hnan | hatom
  · unfold sameNan at hnan
    split at hnan
    · cases hv
      cases hw
      exact Or.inr ⟨_, rfl, by rw [beq_iff_eq.mp hnan]⟩
    · cases hnan
  · simp only [sameAtom, hv, hw] at hatom
    exact Or.inl hatom

/-- The shape of a value, as far as it decides what can be like the value. -/
inductive Shape where
  | absent | number | label | tuple | builder
  | record (form : Form)

/-- The shape of a value. -/
def shape : Value → Shape
  | .absent => .absent
  | .flag _ | .int _ | .real _ => .number
  | .text _ | .keyword _ => .label
  | .tuple _ => .tuple
  | .record form _ => .record form
  | .builder _ => .builder

/-- Values that are alike have one shape. -/
theorem shape_eq_of_alike (h : Alike builders v w) : v.shape = w.shape := by
  cases v <;> cases w <;>
    first
    | rfl
    | exact congrArg Shape.record (alike_record_iff.mp h).1
    | simp [Alike, sameNan, Value.same, sameAtom, number?, label?] at h

/-- Only nothing is like nothing. -/
theorem alike_absent_iff (h : Alike builders v w) : v = .absent ↔ w = .absent := by
  have hshape := shape_eq_of_alike h
  cases v <;> cases w <;> simp [shape] at hshape ⊢

end Value

end SwayControl
