import SwayControl.Builder.Batch

/-!
How stores grow. No builder is ever taken out of a store: a group or a unit keeps its frozen flag,
gains criteria and sub-commands at the end, and stays exactly as it is once it is frozen; a batch
gains entries and text at the end. Growth is a preorder, so what one operation respects every run of
operations respects.
-/

namespace SwayControl

/-- Every entry of a list is followed by one at the same place of another, in a given relation to it. -/
def Grown {α : Type} (R : α → α → Prop) (before after : List α) : Prop :=
  ∀ (i : Nat) a, before[i]? = some a → ∃ b, after[i]? = some b ∧ R a b

namespace Grown

variable {α : Type} {R : α → α → Prop}

theorem refl (hrefl : ∀ a, R a a) (l : List α) : Grown R l l :=
  fun _ a ha => ⟨a, ha, hrefl a⟩

theorem trans (htrans : ∀ a b c, R a b → R b c → R a c) {l m n : List α}
    (hlm : Grown R l m) (hmn : Grown R m n) : Grown R l n := by
  intro i a ha
  obtain ⟨b, hb, hab⟩ := hlm i a ha
  obtain ⟨c, hc, hbc⟩ := hmn i b hb
  exact ⟨c, hc, htrans a b c hab hbc⟩

theorem concat (hrefl : ∀ a, R a a) (l : List α) (x : α) : Grown R l (l ++ [x]) := by
  intro i a ha
  have hi : i < l.length := (List.getElem?_eq_some_iff.mp ha).1
  exact ⟨a, by rw [List.getElem?_append_left hi, ha], hrefl a⟩

theorem set (hrefl : ∀ a, R a a) {l : List α} {i : Nat} {a b : α} (ha : l[i]? = some a)
    (hab : R a b) : Grown R l (l.set i b) := by
  intro j x hx
  have hi : i < l.length := (List.getElem?_eq_some_iff.mp ha).1
  by_cases hij : i = j
  · subst hij
    have hxa : x = a := Option.some.inj (hx.symm.trans ha)
    exact ⟨b, List.getElem?_set_self hi, hxa ▸ hab⟩
  · exact ⟨x, by rw [List.getElem?_set_ne hij, hx], hrefl x⟩

theorem length_le {l m : List α} (h : Grown R l m) : l.length ≤ m.length := by
  rcases Nat.lt_or_ge m.length l.length with hlt | hge
  · obtain ⟨_, hb, _⟩ := h m.length l[m.length] (List.getElem?_eq_getElem hlt)
    simp at hb
  · exact hge

end Grown

/-- An entry of a list with one more entry is an old one or the new one. -/
theorem getElem?_concat_cases {α : Type} {l : List α} {x a : α} {i : Nat}
    (h : (l ++ [x])[i]? = some a) : l[i]? = some a ∨ (i = l.length ∧ a = x) := by
  rcases Nat.lt_trichotomy i l.length with hlt | heq | hgt
  · rw [List.getElem?_append_left hlt] at h
    exact Or.inl h
  · subst heq
    rw [List.getElem?_concat_length] at h
    exact Or.inr ⟨rfl, (Option.some.inj h).symm⟩
  · rw [List.getElem?_eq_none (by simp; omega)] at h
    cases h

/-- An entry of a list with one entry replaced is the replacement or an old entry elsewhere. -/
theorem getElem?_set_cases {α : Type} {l : List α} {x a : α} {i j : Nat}
    (h : (l.set i x)[j]? = some a) : (j ≠ i ∧ l[j]? = some a) ∨ (j = i ∧ a = x) := by
  by_cases hij : i = j
  · subst hij
    have hi : i < l.length := by
      have := (List.getElem?_eq_some_iff.mp h).1
      simpa using this
    rw [List.getElem?_set_self hi] at h
    exact Or.inr ⟨rfl, (Option.some.inj h).symm⟩
  · rw [List.getElem?_set_ne hij] at h
    exact Or.inl ⟨Ne.symm hij, h⟩

/-- What may become of a group: its flag stays, criteria come at the end, and a frozen group stays. -/
structure CriteriaGroup.Grows (g g' : CriteriaGroup) : Prop where
  frozen : g'.frozen = g.frozen
  criteria : g.criteria <+: g'.criteria
  fixed : g.frozen = true → g' = g

/-- What may become of a unit: its flag and its clause stay, sub-commands come at the end, and a frozen
unit stays. -/
structure TargetedUnit.Grows (u u' : TargetedUnit) : Prop where
  frozen : u'.frozen = u.frozen
  clause : ∀ c, u.clause = some c → u'.clause = some c
  commands : u.commands <+: u'.commands
  fixed : u.frozen = true → u' = u

/-- What may become of a batch: entries and text come at the end. -/
structure Batch.Grows (b b' : Batch) : Prop where
  commands : b.commands <+: b'.commands
  text : ∃ rest, b'.text = b.text ++ rest

theorem CriteriaGroup.Grows.refl (g : CriteriaGroup) : g.Grows g :=
  ⟨rfl, List.prefix_refl _, fun _ => rfl⟩

theorem TargetedUnit.Grows.refl (u : TargetedUnit) : u.Grows u :=
  ⟨rfl, fun _ h => h, List.prefix_refl _, fun _ => rfl⟩

theorem Batch.Grows.refl (b : Batch) : b.Grows b :=
  ⟨List.prefix_refl _, "", String.append_empty.symm⟩

theorem CriteriaGroup.Grows.trans (f g h : CriteriaGroup) (hfg : f.Grows g) (hgh : g.Grows h) :
    f.Grows h where
  frozen := hgh.frozen.trans hfg.frozen
  criteria := hfg.criteria.trans hgh.criteria
  fixed hf := (hgh.fixed (hfg.frozen.trans hf)).trans (hfg.fixed hf)

theorem TargetedUnit.Grows.trans (u v w : TargetedUnit) (huv : u.Grows v) (hvw : v.Grows w) :
    u.Grows w where
  frozen := hvw.frozen.trans huv.frozen
  clause c hc := hvw.clause c (huv.clause c hc)
  commands := huv.commands.trans hvw.commands
  fixed hu := (hvw.fixed (huv.frozen.trans hu)).trans (huv.fixed hu)

theorem Batch.Grows.trans (a b c : Batch) (hab : a.Grows b) (hbc : b.Grows c) : a.Grows c where
  commands := hab.commands.trans hbc.commands
  text := by
    obtain ⟨r, hr⟩ := hab.text
    obtain ⟨t, ht⟩ := hbc.text
    exact ⟨r ++ t, by rw [ht, hr, String.append_assoc]⟩

namespace Store

/-- Whether a builder is in the store. -/
def Has (s : Store) : Ref → Prop
  | .group i => i < s.groups.length
  | .unit i => i < s.units.length
  | .batch i => i < s.batches.length

/-- Whether a builder is frozen. A batch never is. -/
def Frozen (s : Store) : Ref → Prop
  | .group i => ∃ g, s.groups[i]? = some g ∧ g.frozen = true
  | .unit i => ∃ u, s.units[i]? = some u ∧ u.frozen = true
  | .batch _ => False

/-- Whether a builder is the same in two stores, with all that it holds itself. -/
def Same (s s' : Store) : Ref → Prop
  | .group i => s'.groups[i]? = s.groups[i]?
  | .unit i => s'.units[i]? = s.units[i]?
  | .batch i => s'.batches[i]? = s.batches[i]?

/-- A group that is the clause of no unit. -/
def Loose (s : Store) (c : Nat) : Prop := ∀ (i : Nat) u, s.units[i]? = some u → u.clause ≠ some c

theorem loose_iff {s : Store} {c : Nat} : s.Loose c ↔ ∀ u ∈ s.units, u.clause ≠ some c := by
  constructor
  · intro h u hu
    obtain ⟨i, hi⟩ := List.mem_iff_getElem?.mp hu
    exact h i u hi
  · intro h i u hu
    exact h u (List.mem_of_getElem? hu)

/-- What may become of a store. -/
structure Grows (s s' : Store) : Prop where
  groups : Grown CriteriaGroup.Grows s.groups s'.groups
  units : Grown TargetedUnit.Grows s.units s'.units
  batches : Grown Batch.Grows s.batches s'.batches

variable {s s' s'' : Store} {ref : Ref}

theorem Grows.refl (s : Store) : s.Grows s :=
  ⟨Grown.refl CriteriaGroup.Grows.refl _, Grown.refl TargetedUnit.Grows.refl _,
    Grown.refl Batch.Grows.refl _⟩

theorem Grows.trans (h : s.Grows s') (h' : s'.Grows s'') : s.Grows s'' :=
  ⟨h.groups.trans CriteriaGroup.Grows.trans h'.groups,
    h.units.trans TargetedUnit.Grows.trans h'.units,
    h.batches.trans Batch.Grows.trans h'.batches⟩

theorem Grows.has (h : s.Grows s') (href : s.Has ref) : s'.Has ref := by
  cases ref with
  | group i => exact Nat.lt_of_lt_of_le href h.groups.length_le
  | unit i => exact Nat.lt_of_lt_of_le href h.units.length_le
  | batch i => exact Nat.lt_of_lt_of_le href h.batches.length_le

theorem has_group {i : Nat} {g : CriteriaGroup} (h : s.groups[i]? = some g) : s.Has (.group i) :=
  (List.getElem?_eq_some_iff.mp h).1

theorem has_unit {i : Nat} {u : TargetedUnit} (h : s.units[i]? = some u) : s.Has (.unit i) :=
  (List.getElem?_eq_some_iff.mp h).1

theorem has_batch {i : Nat} {b : Batch} (h : s.batches[i]? = some b) : s.Has (.batch i) :=
  (List.getElem?_eq_some_iff.mp h).1

theorem Frozen.has (href : s.Frozen ref) : s.Has ref := by
  cases ref with
  | group i =>
      obtain ⟨g, hg, _⟩ := href
      exact has_group hg
  | unit i =>
      obtain ⟨u, hu, _⟩ := href
      exact has_unit hu
  | batch i => exact href.elim

/-- What is frozen stays as it is, in every store that the store grows into. -/
theorem Grows.same_of_frozen (h : s.Grows s') (href : s.Frozen ref) : s.Same s' ref := by
  cases ref with
  | group i =>
      obtain ⟨g, hg, hfrozen⟩ := href
      obtain ⟨g', hg', hgg⟩ := h.groups i g hg
      simp only [Same, hg, hg', hgg.fixed hfrozen]
  | unit i =>
      obtain ⟨u, hu, hfrozen⟩ := href
      obtain ⟨u', hu', huu⟩ := h.units i u hu
      simp only [Same, hu, hu', huu.fixed hfrozen]
  | batch i => exact href.elim

theorem Same.texts_eq (h : s.Same s' ref) : s'.texts ref = s.texts ref := by
  cases ref <;> simp only [Same] at h <;> simp only [texts, h]

theorem Same.frozen (h : s.Same s' ref) (href : s.Frozen ref) : s'.Frozen ref := by
  cases ref with
  | group i => simpa only [Frozen, show s'.groups[i]? = s.groups[i]? from h] using href
  | unit i => simpa only [Frozen, show s'.units[i]? = s.units[i]? from h] using href
  | batch i => exact href

theorem Grows.frozen (h : s.Grows s') (href : s.Frozen ref) : s'.Frozen ref :=
  (h.same_of_frozen href).frozen href

end Store

end SwayControl
