import Mathlib.Data.List.Forall2
import SwayControl.Value.Reading

/-!
What readings give. `Gives` says what holds of a reading whenever it is not refused, `Agree` that two
readings both succeed with results in a relation; each is closed under the steps that readers are made
of.
-/

namespace SwayControl

section

variable {α β : Type} {x : Reading α} {f : α → Reading β} {P Q : α → Prop} {R : β → Prop}

/-- What holds of a reading whenever it is not refused. -/
def Gives (x : Reading α) (P : α → Prop) : Prop := ∀ a, x = .ok a → P a

theorem gives_pure {a : α} (h : P a) : Gives (pure a) P := by
  rintro _ ⟨⟩
  exact h

theorem gives_refuse (value : Value) (expected : Expected) :
    Gives (value.refuse expected : Reading α) P := by
  rintro _ ⟨⟩

theorem gives_of_forall (h : ∀ a, P a) : Gives x P := fun a _ => h a

theorem Gives.bind (hx : Gives x P) (hf : ∀ a, P a → Gives (f a) R) : Gives (x >>= f) R := by
  intro b hb
  cases x with
  | error refusal => cases hb
  | ok a => exact hf a (hx a rfl) b hb

/-- Where nothing is needed of a part, nothing is asked of it. -/
theorem gives_bind (hf : ∀ a, Gives (f a) R) : Gives (x >>= f) R :=
  Gives.bind (P := fun _ => True) (gives_of_forall fun _ => trivial) fun a _ => hf a

theorem Gives.map {g : α → β} (hx : Gives x P) (hg : ∀ a, P a → R (g a)) : Gives (g <$> x) R := by
  rw [map_eq_pure_bind]
  exact hx.bind fun a ha => gives_pure (hg a ha)

theorem gives_map {g : α → β} (hg : ∀ a, R (g a)) : Gives (g <$> x) R := by
  rw [map_eq_pure_bind]
  exact gives_bind fun a => gives_pure (hg a)

theorem Gives.mono (hx : Gives x P) (h : ∀ a, P a → Q a) : Gives x Q :=
  fun a ha => h a (hx a ha)

theorem gives_mapM {read : Value → Reading α} {items : List Value}
    (h : ∀ v ∈ items, Gives (read v) P) : Gives (items.mapM read) fun as => ∀ a ∈ as, P a := by
  induction items with
  | nil => exact gives_pure fun _ ha => by cases ha
  | cons v rest ih =>
      rw [List.mapM_cons]
      refine (h v List.mem_cons_self).bind fun a ha => ?_
      refine (ih fun w hw => h w (List.mem_cons_of_mem v hw)).bind fun as has => ?_
      exact gives_pure (List.forall_mem_cons.mpr ⟨ha, has⟩)

end

/-- Whether two readings both succeed, with results in a relation. -/
def Agree {α β : Type} (R : α → β → Prop) (x : Reading α) (y : Reading β) : Prop :=
  ∃ a b, x = .ok a ∧ y = .ok b ∧ R a b

section

variable {α β γ δ : Type} {R : α → β → Prop} {S : γ → δ → Prop} {x : Reading α} {y : Reading β}

theorem agree_pure {a : α} {b : β} (h : R a b) : Agree R (pure a) (pure b) := ⟨a, b, rfl, rfl, h⟩

theorem Agree.bind {f : α → Reading γ} {g : β → Reading δ} (h : Agree R x y)
    (hnext : ∀ a b, R a b → Agree S (f a) (g b)) : Agree S (x >>= f) (y >>= g) := by
  obtain ⟨a, b, rfl, rfl, hab⟩ := h
  exact hnext a b hab

/-- What follows two readings of one result may start from that. -/
theorem Agree.next {x y : Reading α} {f : α → Reading γ} {g : α → Reading δ} (h : Agree Eq x y)
    (hnext : ∀ a, Agree S (f a) (g a)) : Agree S (x >>= f) (y >>= g) :=
  h.bind fun a _ hab => hab ▸ hnext a

theorem Agree.map {f : α → γ} {g : β → δ} (h : Agree R x y) (hmap : ∀ a b, R a b → S (f a) (g b)) :
    Agree S (f <$> x) (g <$> y) := by
  obtain ⟨a, b, rfl, rfl, hab⟩ := h
  exact ⟨f a, g b, rfl, rfl, hmap a b hab⟩

/-- One function of two readings of one result. -/
theorem Agree.same {x y : Reading α} {f : α → γ} {S : γ → γ → Prop} (h : Agree Eq x y)
    (hrefl : ∀ c, S c c) : Agree S (f <$> x) (f <$> y) :=
  h.map fun _ _ hab => hab ▸ hrefl _

theorem agree_mapM {read : Value → Reading α} {vs ws : List Value}
    (h : List.Forall₂ (fun v w => Agree Eq (read v) (read w)) vs ws) :
    Agree Eq (vs.mapM read) (ws.mapM read) := by
  induction h with
  | nil => exact agree_pure rfl
  | cons hhead _ ih =>
      rw [List.mapM_cons, List.mapM_cons]
      exact hhead.next fun _ => ih.next fun _ => agree_pure rfl

end

end SwayControl
