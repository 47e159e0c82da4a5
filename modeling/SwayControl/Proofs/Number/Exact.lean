import Mathlib.Algebra.Order.Field.Rat
import Mathlib.Tactic.NormNum
import Mathlib.Tactic.Positivity
import Mathlib.Tactic.Ring
import SwayControl.Number.Basic

/-!
Numbers by what they are. A finite number is a rational; numbers are the same exactly if they are the
same rational or the same infinity. A number that is an integer is written as that integer, so what a
number is written as depends on what it is alone.
-/

namespace SwayControl

namespace Binary64

/-- One with a sign. -/
def sign (negative : Bool) : ℤ := if negative then -1 else 1

/-- The rational that a finite number is. -/
def toRat? : Binary64 → Option ℚ
  | .nan _ | .infinite _ => none
  | .finite negative mantissa exponent _ => some (sign negative * mantissa * 2 ^ exponent)

theorem sign_ne_zero (negative : Bool) : sign negative ≠ 0 := by
  cases negative <;> decide

theorem sign_mul (negative : Bool) (n : ℤ) :
    sign negative * n = if negative then -n else n := by
  cases negative <;> simp [sign]

/-- A power of two with a negative exponent divides. -/
theorem two_zpow_of_neg {exponent : ℤ} (h : exponent < 0) :
    (2 : ℚ) ^ exponent = ((2 ^ exponent.natAbs : ℕ) : ℚ)⁻¹ := by
  obtain ⟨k, rfl⟩ : ∃ k : ℕ, exponent = -(k : ℤ) := ⟨exponent.natAbs, by omega⟩
  rw [zpow_neg, zpow_natCast, Int.natAbs_neg, Int.natAbs_natCast]
  push_cast
  rfl

theorem two_zpow_of_nonneg {exponent : ℤ} (h : 0 ≤ exponent) :
    (2 : ℚ) ^ exponent = ((2 ^ exponent.natAbs : ℕ) : ℚ) := by
  obtain ⟨k, rfl⟩ : ∃ k : ℕ, exponent = (k : ℤ) := ⟨exponent.natAbs, by omega⟩
  rw [zpow_natCast, Int.natAbs_natCast]
  push_cast
  rfl

/-- A finite number has an integer if it is one. -/
theorem toInt?_eq_some_iff {x : Binary64} {n : ℤ} : x.toInt? = some n ↔ x.toRat? = some (n : ℚ) := by
  cases x with
  | nan which => simp [toInt?, toRat?]
  | infinite negative => simp [toInt?, toRat?]
  | finite negative mantissa exponent canonical =>
      have hpower : 0 < 2 ^ exponent.natAbs := Nat.two_pow_pos _
      simp only [toInt?, toRat?, Option.some.injEq, Nat.pow_eq]
      by_cases hexponent : exponent < 0
      · -- The mantissa is divided by the power, and what is left over must be nothing.
        have hrat : (sign negative * mantissa * 2 ^ exponent : ℚ) = n ↔
            sign negative * (mantissa : ℤ) = n * (2 ^ exponent.natAbs : ℕ) := by
          rw [two_zpow_of_neg hexponent, mul_inv_eq_iff_eq_mul₀ (by positivity)]
          exact_mod_cast Iff.rfl
        rw [hrat]
        simp only [hexponent, if_true, beq_iff_eq]
        by_cases hrest : mantissa % 2 ^ exponent.natAbs = 0
        · obtain ⟨quotient, rfl⟩ := Nat.dvd_of_mod_eq_zero hrest
          simp only [hrest, if_true, Option.map_some, Option.some.injEq,
            Nat.mul_div_cancel_left _ hpower, ← sign_mul]
          have hne : ((2 ^ exponent.natAbs : ℕ) : ℤ) ≠ 0 := by positivity
          constructor
          · rintro rfl
            push_cast
            ring
          · intro h
            apply mul_right_cancel₀ hne
            rw [← h]
            push_cast
            ring
        · simp only [hrest, if_false, Option.map_none, reduceCtorEq, false_iff]
          intro h
          have hdvd : ((2 ^ exponent.natAbs : ℕ) : ℤ) ∣ sign negative * (mantissa : ℤ) :=
            ⟨n, by rw [h, mul_comm]⟩
          have hunit : IsUnit (sign negative) := by cases negative <;> simp [sign]
          rw [hunit.dvd_mul_left] at hdvd
          exact hrest (Nat.mod_eq_zero_of_dvd (Int.natCast_dvd_natCast.mp hdvd))
      · have hrat : (sign negative * mantissa * 2 ^ exponent : ℚ) = n ↔
            sign negative * (mantissa * 2 ^ exponent.natAbs : ℕ) = n := by
          rw [two_zpow_of_nonneg (not_lt.mp hexponent), mul_assoc]
          exact_mod_cast Iff.rfl
        rw [hrat]
        simp only [hexponent, if_false, Option.map_some, Option.some.injEq, ← sign_mul]

/-- A mantissa and an exponent are told by the number they make. -/
theorem canonical_unique {m m' : ℕ} {e e' : ℤ} (h : Canonical m e) (h' : Canonical m' e')
    (hle : e ≤ e') (heq : (m : ℚ) * 2 ^ e = m' * 2 ^ e') : m = m' ∧ e = e' := by
  obtain ⟨d, rfl⟩ : ∃ d : ℕ, e' = e + d := ⟨(e' - e).toNat, by omega⟩
  have hmantissa : m = m' * 2 ^ d := by
    have hpower : (2 : ℚ) ^ e ≠ 0 := zpow_ne_zero e (by norm_num)
    rw [zpow_add₀ (by norm_num), zpow_natCast] at heq
    have hcast : (m : ℚ) = m' * 2 ^ d := by
      apply mul_right_cancel₀ hpower
      rw [heq]
      ring
    exact_mod_cast hcast
  rcases Nat.eq_zero_or_pos d with rfl | hd
  · simpa using hmantissa
  · -- The greater exponent is not the least one, so its mantissa has all bits, and the other too many.
    obtain ⟨hlt, hleast, -, -⟩ := h
    obtain ⟨-, -, -, hfull⟩ := h'
    have hfull' : 2 ^ 52 ≤ m' := hfull.resolve_right (by omega)
    have htwo : 2 ^ 1 ≤ 2 ^ d := Nat.pow_le_pow_right (by norm_num) hd
    have hmany : 2 ^ 52 * 2 ^ 1 ≤ m' * 2 ^ d := Nat.mul_le_mul hfull' htwo
    simp only [Nat.pow_eq] at hlt
    omega

theorem sign_injective {a b : Bool} (h : sign a = sign b) : a = b := by
  revert h
  cases a <;> cases b <;> decide

/-- Finite numbers are one rational if they are both zero, or agree in sign, mantissa and exponent. -/
theorem finite_rat_eq_iff {a b : Bool} {m m' : ℕ} {e e' : ℤ} (h : Canonical m e)
    (h' : Canonical m' e') : (sign a * m * 2 ^ e : ℚ) = sign b * m' * 2 ^ e' ↔
      (m = 0 ∧ m' = 0) ∨ (a = b ∧ m = m' ∧ e = e') := by
  have hpower (k : ℤ) : (2 : ℚ) ^ k ≠ 0 := zpow_ne_zero k (by norm_num)
  have hsign (c : Bool) : (sign c : ℚ) ≠ 0 := Int.cast_ne_zero.mpr (sign_ne_zero c)
  constructor
  · intro heq
    have habs : (m : ℚ) * 2 ^ e = m' * 2 ^ e' := by
      have hone (c : Bool) : |(sign c : ℚ)| = 1 := by cases c <;> simp [sign]
      have hnonneg (k : ℤ) : |(2 : ℚ) ^ k| = 2 ^ k := abs_of_pos (zpow_pos (by norm_num) k)
      simpa only [abs_mul, hone, one_mul, Nat.abs_cast, hnonneg] using congrArg abs heq
    by_cases hm : m = 0
    · refine Or.inl ⟨hm, ?_⟩
      rw [hm, Nat.cast_zero, zero_mul] at habs
      exact_mod_cast (mul_eq_zero.mp habs.symm).resolve_right (hpower e')
    · obtain ⟨rfl, rfl⟩ : m = m' ∧ e = e' := by
        rcases le_total e e' with hle | hle
        · exact canonical_unique h h' hle habs
        · obtain ⟨hmm, hee⟩ := canonical_unique h' h hle habs.symm
          exact ⟨hmm.symm, hee.symm⟩
      have hcancel := mul_right_cancel₀ (hpower e) heq
      have hsigns := mul_right_cancel₀ (Nat.cast_ne_zero.mpr hm) hcancel
      exact Or.inr ⟨sign_injective (by exact_mod_cast hsigns), rfl, rfl⟩
  · rintro (⟨rfl, rfl⟩ | ⟨rfl, rfl, rfl⟩)
    · simp only [Nat.cast_zero, mul_zero, zero_mul]
    · rfl

/-- A rational other than zero is one finite number at most. -/
theorem eq_of_toRat?_eq {x y : Binary64} {q : ℚ} (hx : x.toRat? = some q) (hy : y.toRat? = some q)
    (hq : q ≠ 0) : x = y := by
  cases x with
  | finite a m e h =>
      cases y with
      | finite b m' e' h' =>
          have heq := Option.some.inj (hx.trans hy.symm)
          rcases (finite_rat_eq_iff h h').mp heq with ⟨rfl, -⟩ | ⟨rfl, rfl, rfl⟩
          · refine absurd (Option.some.inj hx).symm ?_
            simpa using hq
          · rfl
      | _ => cases hy
  | _ => cases hx

/-- Numbers are the same if they are one rational or one infinity. -/
theorem same_iff {x y : Binary64} : x.same y = true ↔
    (∃ q, x.toRat? = some q ∧ y.toRat? = some q) ∨
      ∃ negative, x = .infinite negative ∧ y = .infinite negative := by
  cases x with
  | nan which => simp [same, toRat?]
  | infinite a =>
      cases y with
      | infinite b =>
          simp only [same, toRat?, beq_iff_eq, infinite.injEq]
          simp [eq_comm]
      | _ => simp [same, toRat?]
  | finite a m e h =>
      cases y with
      | finite b m' e' h' =>
          have hsame : (finite a m e h).same (finite b m' e' h') = true ↔
              (m = 0 ∧ m' = 0) ∨ (a = b ∧ m = m' ∧ e = e') := by
            cases m <;> cases m' <;> simp [same]
          rw [hsame, ← finite_rat_eq_iff h h']
          simp [toRat?, eq_comm]
      | _ => cases m <;> simp [same, toRat?]

end Binary64

namespace Number

/-- The rational that a number is, unless it is an infinity or not a number. -/
def toRat? : Number → Option ℚ
  | .int n => some n
  | .real x => x.toRat?

/-- Numbers are the same if they are one rational or one infinity, whichever way each is held. -/
theorem same_iff {x y : Number} : x.same y = true ↔
    (∃ q, x.toRat? = some q ∧ y.toRat? = some q) ∨
      ∃ negative, x = .real (.infinite negative) ∧ y = .real (.infinite negative) := by
  cases x with
  | int m =>
      cases y with
      | int n =>
          simp only [same, beq_iff_eq, toRat?]
          simp [eq_comm]
      | real y =>
          simp only [same, beq_iff_eq, Binary64.toInt?_eq_some_iff, toRat?]
          simp
  | real x =>
      cases y with
      | int n =>
          simp only [same, beq_iff_eq, Binary64.toInt?_eq_some_iff, toRat?]
          simp
      | real y => simp [same, toRat?, Binary64.same_iff]

/-- A number that is an integer is written as that integer, whatever its size. -/
theorem render_of_integral {x : Number} {n : ℤ} (h : x.toRat? = some (n : ℚ)) :
    x.render = toString n := by
  cases x with
  | int m =>
      have hmn : m = n := by exact_mod_cast Option.some.inj h
      rw [hmn]
      rfl
  | real x =>
      have hint : x.toInt? = some n := Binary64.toInt?_eq_some_iff.mpr h
      simp only [render, hint]

/-- Negative zero is written as zero, and 1e22 with all its digits. -/
example : (real (.zero true)).render = "0" ∧
    (real (.finite false 4768371582031250 21 (by decide))).render = "10000000000000000000000" := by
  decide +kernel

/-- Numbers that are the same are written alike. -/
theorem render_eq_of_same {x y : Number} (h : x.same y = true) : x.render = y.render := by
  rcases same_iff.mp h with ⟨q, hx, hy⟩ | ⟨negative, rfl, rfl⟩
  · by_cases hq : ∃ n : ℤ, q = n
    · obtain ⟨n, rfl⟩ := hq
      rw [render_of_integral hx, render_of_integral hy]
    · -- No integer is this number, so both are held the one way that is left.
      cases x with
      | int m => exact absurd ⟨m, (Option.some.inj hx).symm⟩ hq
      | real x =>
          cases y with
          | int n => exact absurd ⟨n, (Option.some.inj hy).symm⟩ hq
          | real y =>
              have hzero : q ≠ 0 := fun h0 => hq ⟨0, by rw [h0, Int.cast_zero]⟩
              rw [Binary64.eq_of_toRat?_eq hx hy hzero]
  · rfl

end Number

end SwayControl
