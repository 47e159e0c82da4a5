import SwayControl.Proofs.Builder.WellFormed

/-!
The updates of a store that operations are made of: a builder is added at the end of its list, or one
that is not frozen is replaced. Each keeps the store well formed, lets it grow, and leaves every builder
but its target alone. `Store.Leads` collects these facts; it composes, so a run of updates has them too.
-/

namespace SwayControl

namespace Store

/-- The store with one more group. -/
def addGroup (s : Store) (g : CriteriaGroup) : Store := { s with groups := s.groups ++ [g] }

/-- The store with one more unit. -/
def addUnit (s : Store) (u : TargetedUnit) : Store := { s with units := s.units ++ [u] }

/-- The store with one more batch. -/
def addBatch (s : Store) (b : Batch) : Store := { s with batches := s.batches ++ [b] }

/-- The store with a group replaced. -/
def setGroup (s : Store) (i : Nat) (g : CriteriaGroup) : Store :=
  { s with groups := s.groups.set i g }

/-- The store with a unit replaced. -/
def setUnit (s : Store) (i : Nat) (u : TargetedUnit) : Store := { s with units := s.units.set i u }

/-- The store with a batch replaced. -/
def setBatch (s : Store) (i : Nat) (b : Batch) : Store := { s with batches := s.batches.set i b }

/-- The store with one more text noted as written anew. -/
def noted (s : Store) (count : Nat) : Store := { s with rebuilds := s.rebuilds ++ [count] }

/-- The store after a unit's text was written anew: it is noted if the unit has sub-commands. -/
def rebuilt (s : Store) (u : TargetedUnit) : Store :=
  if u.commands.isEmpty then s else s.noted u.commands.length

/-- Replacing a unit by itself changes nothing. -/
theorem setUnit_self {s : Store} {i : Nat} {u : TargetedUnit} (h : s.units[i]? = some u) :
    s.setUnit i u = s := by
  obtain ⟨hi, rfl⟩ := List.getElem?_eq_some_iff.mp h
  simp only [setUnit, List.set_getElem_self]

/-- Replacing a batch by itself changes nothing. -/
theorem setBatch_self {s : Store} {i : Nat} {b : Batch} (h : s.batches[i]? = some b) :
    s.setBatch i b = s := by
  obtain ⟨hi, rfl⟩ := List.getElem?_eq_some_iff.mp h
  simp only [setBatch, List.set_getElem_self]

/-- What every run of an operation from a well-formed store leaves behind: a well-formed store that the
first one grew into, in which only targets differ from what they were and only targets became clauses. -/
structure Leads (target : Ref → Prop) (s s' : Store) : Prop where
  wellFormed : s'.WellFormed
  grows : s.Grows s'
  frame : ∀ ref, s.Has ref → ¬ target ref → s.Same s' ref
  loose : ∀ c, s.Has (.group c) → ¬ target (.group c) → s.Loose c → s'.Loose c

variable {target target' : Ref → Prop} {s s' s'' : Store}

theorem WellFormed.leads (h : s.WellFormed) : s.Leads target s where
  wellFormed := h
  grows := Grows.refl s
  frame ref _ _ := by cases ref <;> rfl
  loose _ _ _ hc := hc

theorem Same.trans {ref : Ref} (h : s.Same s' ref) (h' : s'.Same s'' ref) : s.Same s'' ref := by
  cases ref with
  | group i => exact Eq.trans (b := s'.groups[i]?) h' h
  | unit i => exact Eq.trans (b := s'.units[i]?) h' h
  | batch i => exact Eq.trans (b := s'.batches[i]?) h' h

theorem Leads.trans (h : s.Leads target s') (h' : s'.Leads target s'') : s.Leads target s'' where
  wellFormed := h'.wellFormed
  grows := h.grows.trans h'.grows
  frame ref href htarget :=
    (h.frame ref href htarget).trans (h'.frame ref (h.grows.has href) htarget)
  loose c hc htarget hloose :=
    h'.loose c (h.grows.has hc) htarget (h.loose c hc htarget hloose)

theorem Leads.mono (h : s.Leads target s') (htarget : ∀ ref, s.Has ref → target ref → target' ref) :
    s.Leads target' s' where
  wellFormed := h.wellFormed
  grows := h.grows
  frame ref href hnot := h.frame ref href fun ht => hnot (htarget ref href ht)
  loose c hc hnot := h.loose c hc fun ht => hnot (htarget _ hc ht)

theorem WellFormed.leads_addGroup (h : s.WellFormed) {g : CriteriaGroup} (hg : s.SoundGroup g) :
    s.Leads target (s.addGroup g) := by
  have hgrows : s.Grows (s.addGroup g) :=
    ⟨Grown.concat CriteriaGroup.Grows.refl _ _, Grown.refl TargetedUnit.Grows.refl _,
      Grown.refl Batch.Grows.refl _⟩
  refine ⟨h.grown hgrows ?_ (fun _ _ hu => Or.inl hu) (fun _ _ hb => Or.inl hb) h.separate, hgrows,
    ?_, fun _ _ _ hc => hc⟩
  · intro i x hx
    rcases getElem?_concat_cases hx with hold | ⟨_, rfl⟩
    · exact Or.inl hold
    · exact Or.inr (hgrows.soundGroup hg)
  · intro ref href _
    cases ref with
    | group i => exact List.getElem?_append_left href
    | unit i => rfl
    | batch i => rfl

/-- A new unit may take a clause of its own flag that no other unit has. -/
theorem WellFormed.leads_addUnit (h : s.WellFormed) {u : TargetedUnit} (hu : s.SoundUnit u)
    (hclause : ∀ c, u.clause = some c → s.Loose c ∧ target (.group c)) :
    s.Leads target (s.addUnit u) := by
  have hgrows : s.Grows (s.addUnit u) :=
    ⟨Grown.refl CriteriaGroup.Grows.refl _, Grown.concat TargetedUnit.Grows.refl _ _,
      Grown.refl Batch.Grows.refl _⟩
  refine ⟨h.grown hgrows (fun _ _ hg => Or.inl hg) ?_ (fun _ _ hb => Or.inl hb) ?_, hgrows, ?_, ?_⟩
  · intro i x hx
    rcases getElem?_concat_cases hx with hold | ⟨_, rfl⟩
    · exact Or.inl hold
    · exact Or.inr (hgrows.soundUnit hu)
  · intro i j v w c hv hw hvc hwc
    rcases getElem?_concat_cases hv with hv' | ⟨hi, rfl⟩
    · rcases getElem?_concat_cases hw with hw' | ⟨_, rfl⟩
      · exact h.separate i j v w c hv' hw' hvc hwc
      · exact absurd hvc ((hclause c hwc).1 i v hv')
    · rcases getElem?_concat_cases hw with hw' | ⟨hj, _⟩
      · exact absurd hwc ((hclause c hvc).1 j w hw')
      · exact hi.trans hj.symm
  · intro ref href _
    cases ref with
    | group i => rfl
    | unit i => exact List.getElem?_append_left href
    | batch i => rfl
  · intro c _ htarget hc i v hv
    rcases getElem?_concat_cases hv with hold | ⟨_, rfl⟩
    · exact hc i v hold
    · exact fun hvc => htarget (hclause c hvc).2

theorem WellFormed.leads_addBatch (h : s.WellFormed) {b : Batch} (hb : s.SoundBatch b) :
    s.Leads target (s.addBatch b) := by
  have hgrows : s.Grows (s.addBatch b) :=
    ⟨Grown.refl CriteriaGroup.Grows.refl _, Grown.refl TargetedUnit.Grows.refl _,
      Grown.concat Batch.Grows.refl _ _⟩
  refine ⟨h.grown hgrows (fun _ _ hg => Or.inl hg) (fun _ _ hu => Or.inl hu) ?_ h.separate, hgrows,
    ?_, fun _ _ _ hc => hc⟩
  · intro i x hx
    rcases getElem?_concat_cases hx with hold | ⟨_, rfl⟩
    · exact Or.inl hold
    · exact Or.inr (hgrows.soundBatch hb)
  · intro ref href _
    cases ref with
    | group i => rfl
    | unit i => rfl
    | batch i => exact List.getElem?_append_left href

/-- A group that is not frozen may gain criteria. -/
theorem WellFormed.leads_setGroup (h : s.WellFormed) {i : Nat} {g g' : CriteriaGroup}
    (hg : s.groups[i]? = some g) (hfrozen : g.frozen = false) (hfrozen' : g'.frozen = false)
    (hcriteria : g.criteria <+: g'.criteria) (hsound : s.SoundGroup g')
    (htarget : target (.group i)) : s.Leads target (s.setGroup i g') := by
  have hgg : g.Grows g' :=
    ⟨by rw [hfrozen, hfrozen'], hcriteria, fun ht => by simp [hfrozen] at ht⟩
  have hgrows : s.Grows (s.setGroup i g') :=
    ⟨Grown.set CriteriaGroup.Grows.refl hg hgg, Grown.refl TargetedUnit.Grows.refl _,
      Grown.refl Batch.Grows.refl _⟩
  refine ⟨h.grown hgrows ?_ (fun _ _ hu => Or.inl hu) (fun _ _ hb => Or.inl hb) h.separate, hgrows,
    ?_, fun _ _ _ hc => hc⟩
  · intro j x hx
    rcases getElem?_set_cases hx with ⟨_, hold⟩ | ⟨_, rfl⟩
    · exact Or.inl hold
    · exact Or.inr (hgrows.soundGroup hsound)
  · intro ref _ hnot
    cases ref with
    | group j =>
        refine List.getElem?_set_ne ?_
        rintro rfl
        exact hnot htarget
    | unit j => rfl
    | batch j => rfl

/-- A unit that is not frozen may gain sub-commands, and a clause if it has none. -/
theorem WellFormed.leads_setUnit (h : s.WellFormed) {i : Nat} {u u' : TargetedUnit}
    (hu : s.units[i]? = some u) (hfrozen : u.frozen = false) (hfrozen' : u'.frozen = false)
    (hkept : ∀ c, u.clause = some c → u'.clause = some c)
    (hclause : ∀ c, u'.clause = some c → u.clause = some c ∨ s.Loose c ∧ target (.group c))
    (hcommands : u.commands <+: u'.commands) (hsound : s.SoundUnit u')
    (htarget : target (.unit i)) : s.Leads target (s.setUnit i u') := by
  have huu : u.Grows u' :=
    ⟨by rw [hfrozen, hfrozen'], hkept, hcommands, fun ht => by simp [hfrozen] at ht⟩
  have hgrows : s.Grows (s.setUnit i u') :=
    ⟨Grown.refl CriteriaGroup.Grows.refl _, Grown.set TargetedUnit.Grows.refl hu huu,
      Grown.refl Batch.Grows.refl _⟩
  -- Whoever has a clause in the new store had it before, unless it is the new clause of the target.
  have hother (j : Nat) (v : TargetedUnit) (c : Nat) (hj : j ≠ i) (hv : s.units[j]? = some v)
      (hvc : v.clause = some c) : u'.clause ≠ some c := by
    intro hc
    rcases hclause c hc with hold | ⟨hloose, _⟩
    · exact hj (h.separate j i v u c hv hu hvc hold)
    · exact hloose j v hv hvc
  refine ⟨h.grown hgrows (fun _ _ hg => Or.inl hg) ?_ (fun _ _ hb => Or.inl hb) ?_, hgrows, ?_, ?_⟩
  · intro j x hx
    rcases getElem?_set_cases hx with ⟨_, hold⟩ | ⟨_, rfl⟩
    · exact Or.inl hold
    · exact Or.inr (hgrows.soundUnit hsound)
  · intro j k v w c hv hw hvc hwc
    rcases getElem?_set_cases hv with ⟨hj, hv'⟩ | ⟨hj, rfl⟩
    · rcases getElem?_set_cases hw with ⟨_, hw'⟩ | ⟨_, rfl⟩
      · exact h.separate j k v w c hv' hw' hvc hwc
      · exact absurd hwc (hother j v c hj hv' hvc)
    · rcases getElem?_set_cases hw with ⟨hk, hw'⟩ | ⟨hk, _⟩
      · exact absurd hvc (hother k w c hk hw' hwc)
      · exact hj.trans hk.symm
  · intro ref _ hnot
    cases ref with
    | group j => rfl
    | unit j =>
        refine List.getElem?_set_ne ?_
        rintro rfl
        exact hnot htarget
    | batch j => rfl
  · intro c _ hnot hloose j v hv
    rcases getElem?_set_cases hv with ⟨_, hold⟩ | ⟨_, rfl⟩
    · exact hloose j v hold
    · intro hvc
      rcases hclause c hvc with hold | ⟨_, ht⟩
      · exact hloose i u hu hold
      · exact hnot ht

/-- A batch may gain entries and text. -/
theorem WellFormed.leads_setBatch (h : s.WellFormed) {i : Nat} {b b' : Batch}
    (hb : s.batches[i]? = some b) (hbb : b.Grows b') (hsound : s.SoundBatch b')
    (htarget : target (.batch i)) : s.Leads target (s.setBatch i b') := by
  have hgrows : s.Grows (s.setBatch i b') :=
    ⟨Grown.refl CriteriaGroup.Grows.refl _, Grown.refl TargetedUnit.Grows.refl _,
      Grown.set Batch.Grows.refl hb hbb⟩
  refine ⟨h.grown hgrows (fun _ _ hg => Or.inl hg) (fun _ _ hu => Or.inl hu) ?_ h.separate, hgrows,
    ?_, fun _ _ _ hc => hc⟩
  · intro j x hx
    rcases getElem?_set_cases hx with ⟨_, hold⟩ | ⟨_, rfl⟩
    · exact Or.inl hold
    · exact Or.inr (hgrows.soundBatch hsound)
  · intro ref _ hnot
    cases ref with
    | group j => rfl
    | unit j => rfl
    | batch j =>
        refine List.getElem?_set_ne ?_
        rintro rfl
        exact hnot htarget

@[simp] theorem rebuilt_units (s : Store) (u : TargetedUnit) : (s.rebuilt u).units = s.units := by
  unfold rebuilt; split <;> rfl

@[simp] theorem rebuilt_groups (s : Store) (u : TargetedUnit) : (s.rebuilt u).groups = s.groups := by
  unfold rebuilt; split <;> rfl

@[simp] theorem rebuilt_batches (s : Store) (u : TargetedUnit) :
    (s.rebuilt u).batches = s.batches := by
  unfold rebuilt; split <;> rfl

/-- Noting that a text was written anew changes no builder. -/
theorem WellFormed.leads_rebuilt (h : s.WellFormed) (u : TargetedUnit) :
    s.Leads target (s.rebuilt u) := by
  have hgrows : s.Grows (s.rebuilt u) :=
    ⟨by rw [rebuilt_groups]; exact (Grows.refl s).groups,
      by rw [rebuilt_units]; exact (Grows.refl s).units,
      by rw [rebuilt_batches]; exact (Grows.refl s).batches⟩
  refine ⟨h.grown hgrows (fun _ _ hg => Or.inl (by simpa using hg))
    (fun _ _ hu => Or.inl (by simpa using hu)) (fun _ _ hb => Or.inl (by simpa using hb)) ?_,
    hgrows, ?_, ?_⟩
  · simpa using h.separate
  · intro ref _ _
    cases ref <;> simp [Same]
  · intro c _ _ hc
    simpa [Loose] using hc

end Store

end SwayControl
