import SwayControl.Proofs.Builder.Script

/-!
Separation and freezing. A clause belongs to one unit and has its frozen flag, so changing a builder
shows in that builder, in the unit that it is the clause of and in the clause that it has, and nowhere
else; and what is frozen looks the same in every later state. All of this holds after failed steps too.
-/

namespace SwayControl

/-- What shows of a builder: its text, the criteria of a group or of the clause of a unit, the commands
of a unit or a batch, and whether it is frozen. -/
structure View where
  text : String
  criteria : List Value
  commands : List Value
  frozen : Bool

/-- The same view with another flag. -/
def View.marked (v : View) (frozen : Bool) : View := { v with frozen }

namespace Store

/-- The criteria of the clause of a unit. -/
def clauseCriteria (s : Store) (u : TargetedUnit) : List Value :=
  (u.clause.bind fun c => s.groups[c]?).elim [] CriteriaGroup.criteria

/-- What shows of a builder, if the store has it. -/
def view (s : Store) : Ref → Option View
  | .group i => (s.groups[i]?).map fun g => ⟨g.text, g.criteria, [], g.frozen⟩
  | .unit i => (s.units[i]?).map fun u => ⟨u.text, s.clauseCriteria u, u.commands, u.frozen⟩
  | .batch i => (s.batches[i]?).map fun b => ⟨b.text, [], b.commands, false⟩

variable {s s' : Store} {ref : Ref}

/-- A builder looks the same if it is the same, and with a unit its clause. -/
theorem view_eq (hsame : s.Same s' ref)
    (hclause : ∀ c, s.Owns ref (.group c) → s.Same s' (.group c)) : s'.view ref = s.view ref := by
  cases ref with
  | group i =>
      have hgroup : s'.groups[i]? = s.groups[i]? := hsame
      simp only [view, hgroup]
  | batch i =>
      have hbatch : s'.batches[i]? = s.batches[i]? := hsame
      simp only [view, hbatch]
  | unit i =>
      have hunit : s'.units[i]? = s.units[i]? := hsame
      simp only [view, hunit]
      cases hu : s.units[i]? with
      | none => rfl
      | some u =>
          have hcriteria : s'.clauseCriteria u = s.clauseCriteria u := by
            unfold clauseCriteria
            cases hc : u.clause with
            | none => rfl
            | some c =>
                have hgroup : s'.groups[c]? = s.groups[c]? := hclause c ⟨i, u, c, rfl, hu, hc, rfl⟩
                simp only [Option.bind_some, hgroup]
          simp only [Option.map_some, hcriteria]

theorem Owns.has (hwf : s.WellFormed) {owner ref : Ref} (h : s.Owns owner ref) : s.Has ref := by
  obtain ⟨i, u, c, rfl, hu, hc, rfl⟩ := h
  exact hwf.has_clause hu hc

/-- A clause has one owner. -/
theorem Owns.unique (hwf : s.WellFormed) {owner owner' ref : Ref} (h : s.Owns owner ref)
    (h' : s.Owns owner' ref) : owner = owner' := by
  obtain ⟨i, u, c, rfl, hu, hc, rfl⟩ := h
  obtain ⟨j, v, d, rfl, hv, hd, hcd⟩ := h'
  cases hcd
  rw [hwf.separate i j u v c hu hv hc hd]

/-- The clause of a frozen unit is frozen. -/
theorem Owns.frozen (hwf : s.WellFormed) {owner ref : Ref} (h : s.Owns owner ref)
    (hfrozen : s.Frozen owner) : s.Frozen ref := by
  obtain ⟨i, u, c, rfl, hu, hc, rfl⟩ := h
  obtain ⟨v, hv, hflag⟩ := hfrozen
  cases hu.symm.trans hv
  obtain ⟨g, hg, hgu⟩ := (hwf.units i u hu).clause c hc
  exact ⟨g, hg, hgu.trans hflag⟩

/-- What is frozen looks the same in every store that the store grows into. -/
theorem Grows.view_of_frozen (h : s.Grows s') (hwf : s.WellFormed) (hfrozen : s.Frozen ref) :
    s'.view ref = s.view ref :=
  view_eq (h.same_of_frozen hfrozen) fun _ howns => h.same_of_frozen (howns.frozen hwf hfrozen)

end Store

namespace Building

variable {s : Store} {ref : Ref}

theorem view_addGroup {g : CriteriaGroup} (frozen : Bool) :
    (s.addGroup ⟨g.criteria, g.text, frozen⟩).view (.group s.groups.length) =
      some ⟨g.text, g.criteria, [], frozen⟩ := by
  simp [Store.view, Store.addGroup]

theorem view_addUnit_bare {u : TargetedUnit} (frozen : Bool) :
    (s.addUnit ⟨none, u.commands, u.text, frozen⟩).view (.unit s.units.length) =
      some ⟨u.text, [], u.commands, frozen⟩ := by
  simp [Store.view, Store.addUnit, Store.clauseCriteria]

theorem view_addUnit_clause {u : TargetedUnit} {g : CriteriaGroup} (frozen : Bool) :
    ((s.addGroup ⟨g.criteria, g.text, frozen⟩).addUnit
      ⟨some s.groups.length, u.commands, u.text, frozen⟩).view (.unit s.units.length) =
        some ⟨u.text, g.criteria, u.commands, frozen⟩ := by
  simp [Store.view, Store.addUnit, Store.addGroup, Store.clauseCriteria]

theorem view_group {i : Nat} {g : CriteriaGroup} (hg : s.groups[i]? = some g) :
    s.view (.group i) = some ⟨g.text, g.criteria, [], g.frozen⟩ := by
  simp [Store.view, hg]

theorem view_unit_bare {i : Nat} {u : TargetedUnit} (hu : s.units[i]? = some u)
    (hc : u.clause = none) : s.view (.unit i) = some ⟨u.text, [], u.commands, u.frozen⟩ := by
  simp [Store.view, hu, Store.clauseCriteria, hc]

theorem view_unit_clause {i c : Nat} {u : TargetedUnit} {g : CriteriaGroup}
    (hu : s.units[i]? = some u) (hc : u.clause = some c) (hg : s.groups[c]? = some g) :
    s.view (.unit i) = some ⟨u.text, g.criteria, u.commands, u.frozen⟩ := by
  simp [Store.view, hu, Store.clauseCriteria, hc, hg]

/-- A copy of a group or a unit is a new builder that looks like the original and can be edited. -/
theorem copyOf_view (hwf : s.WellFormed) (hhas : s.Has ref) (hkind : ∀ i, ref ≠ .batch i) :
    ∃ ref' s', (copyOf (.builder ref)).run s = .ok (.builder ref') s' ∧ ¬ s.Has ref' ∧
      s'.view ref' = (s.view ref).map fun v => v.marked false := by
  cases ref with
  | group i =>
      obtain ⟨g, hg⟩ : ∃ g, s.groups[i]? = some g := ⟨_, List.getElem?_eq_getElem hhas⟩
      have hrun : (copyOf (.builder (.group i))).run s = .ok (.builder (.group s.groups.length))
          (s.addGroup ⟨g.criteria, g.text, false⟩) := by
        simp only [copyOf]
        rw [run_bind_ok (run_copyGroup hg), EStateM.run_pure]
      exact ⟨_, _, hrun, Nat.lt_irrefl _, by rw [view_addGroup, view_group hg]; rfl⟩
  | unit i =>
      obtain ⟨u, hu⟩ : ∃ u, s.units[i]? = some u := ⟨_, List.getElem?_eq_getElem hhas⟩
      cases hc : u.clause with
      | none =>
          have hrun : (copyOf (.builder (.unit i))).run s = .ok (.builder (.unit s.units.length))
              (s.addUnit ⟨none, u.commands, u.text, false⟩) := by
            simp only [copyOf]
            rw [run_bind_ok (run_copyUnit_bare hu hc), EStateM.run_pure]
          exact ⟨_, _, hrun, Nat.lt_irrefl _, by rw [view_addUnit_bare, view_unit_bare hu hc]; rfl⟩
      | some c =>
          obtain ⟨g, hg, _⟩ := (hwf.units i u hu).clause c hc
          have hrun : (copyOf (.builder (.unit i))).run s = .ok (.builder (.unit s.units.length))
              ((s.addGroup ⟨g.criteria, g.text, false⟩).addUnit
                ⟨some s.groups.length, u.commands, u.text, false⟩) := by
            simp only [copyOf]
            rw [run_bind_ok (run_copyUnit_clause hu hc hg), EStateM.run_pure]
          exact ⟨_, _, hrun, Nat.lt_irrefl _,
            by rw [view_addUnit_clause, view_unit_clause hu hc hg]; rfl⟩
  | batch i => exact absurd rfl (hkind i)

/-- What is frozen is its own frozen copy. -/
theorem freezeOf_frozen (hfrozen : s.Frozen ref) :
    (freezeOf (.builder ref)).run s = .ok (.builder ref) s := by
  cases ref with
  | group i =>
      obtain ⟨g, hg, hflag⟩ := hfrozen
      simp only [freezeOf]
      rw [run_bind_ok (run_freezeGroup_frozen hg hflag), EStateM.run_pure]
  | unit i =>
      obtain ⟨u, hu, hflag⟩ := hfrozen
      simp only [freezeOf]
      rw [run_bind_ok (run_freezeUnit_frozen hu hflag), EStateM.run_pure]
  | batch i => exact hfrozen.elim

/-- A frozen copy of a group or a unit looks like the original and is frozen. -/
theorem freezeOf_view (hwf : s.WellFormed) (hhas : s.Has ref) (hkind : ∀ i, ref ≠ .batch i) :
    ∃ ref' s', (freezeOf (.builder ref)).run s = .ok (.builder ref') s' ∧
      s'.view ref' = (s.view ref).map fun v => v.marked true := by
  cases ref with
  | group i =>
      obtain ⟨g, hg⟩ : ∃ g, s.groups[i]? = some g := ⟨_, List.getElem?_eq_getElem hhas⟩
      cases hflag : g.frozen with
      | true =>
          refine ⟨_, _, freezeOf_frozen ⟨g, hg, hflag⟩, ?_⟩
          rw [view_group hg, hflag]
          rfl
      | false =>
          have hrun : (freezeOf (.builder (.group i))).run s =
              .ok (.builder (.group s.groups.length))
                (s.addGroup ⟨g.criteria, g.text, true⟩) := by
            simp only [freezeOf]
            rw [run_bind_ok (run_freezeGroup_copy hg hflag), EStateM.run_pure]
          exact ⟨_, _, hrun, by rw [view_addGroup, view_group hg]; rfl⟩
  | unit i =>
      obtain ⟨u, hu⟩ : ∃ u, s.units[i]? = some u := ⟨_, List.getElem?_eq_getElem hhas⟩
      cases hflag : u.frozen with
      | true =>
          refine ⟨_, _, freezeOf_frozen ⟨u, hu, hflag⟩, ?_⟩
          simp only [Store.view, hu, Option.map_some, View.marked, hflag]
      | false =>
          cases hc : u.clause with
          | none =>
              have hrun : (freezeOf (.builder (.unit i))).run s =
                  .ok (.builder (.unit s.units.length))
                    (s.addUnit ⟨none, u.commands, u.text, true⟩) := by
                simp only [freezeOf]
                rw [run_bind_ok (run_freezeUnit_bare hu hflag hc), EStateM.run_pure]
              exact ⟨_, _, hrun, by rw [view_addUnit_bare, view_unit_bare hu hc]; rfl⟩
          | some c =>
              obtain ⟨g, hg, _⟩ := (hwf.units i u hu).clause c hc
              have hrun : (freezeOf (.builder (.unit i))).run s =
                  .ok (.builder (.unit s.units.length))
                    (((s.addGroup ⟨g.criteria, g.text, false⟩).addGroup
                      ⟨g.criteria, g.text, true⟩).addUnit
                        ⟨some (s.groups.length + 1), u.commands, u.text, true⟩) := by
                simp only [freezeOf]
                rw [run_bind_ok (run_freezeUnit_clause hu hflag hc hg), EStateM.run_pure]
              have hlength : (s.addGroup ⟨g.criteria, g.text, false⟩).groups.length =
                  s.groups.length + 1 := List.length_append
              have hview := view_addUnit_clause (s := s.addGroup ⟨g.criteria, g.text, false⟩)
                (u := u) (g := g) true
              rw [hlength] at hview
              exact ⟨_, _, hrun, hview.trans (by rw [view_unit_clause hu hc hg]; rfl)⟩
  | batch i => exact absurd rfl (hkind i)

end Building

namespace Session

open Building

/-- In every state that a script leads to, failed steps included: no two units share a clause, and a
clause has the flag of its unit; a step shows in no builder but the one it changes in place, the unit
that this is the clause of and the clause that it has; what is frozen looks the same in every later state
and refuses every change; a copy looks like the original and can be edited, a frozen copy looks like it
and is frozen, and what is frozen is its own frozen copy. -/
theorem builders_separate (script : List Step) :
    (∀ owner owner' ref, (start.after script).store.Owns owner ref →
      (start.after script).store.Owns owner' ref → owner = owner') ∧
    (∀ (i : Nat) u c, (start.after script).store.units[i]? = some u → u.clause = some c →
      ∃ g, (start.after script).store.groups[c]? = some g ∧ g.frozen = u.frozen) ∧
    (∀ step ref, (start.after script).store.Has ref →
      (∀ o, (start.after script).mutated step = some o → ref ≠ o ∧
        ¬ (start.after script).store.Owns o ref ∧ ¬ (start.after script).store.Owns ref o) →
      ((start.after script).run step).2.store.view ref = (start.after script).store.view ref) ∧
    (∀ ref, (start.after script).store.Frozen ref →
      (∀ later, ((start.after script).after later).store.view ref =
        (start.after script).store.view ref) ∧
      (∀ i value, ref = .group i → (addToGroup i value).run (start.after script).store =
        .error (.frozen ref) (start.after script).store) ∧
      (∀ i value, ref = .unit i →
        (addCriterion i value).run (start.after script).store =
          .error (.frozen ref) (start.after script).store ∧
        (addCommand i value).run (start.after script).store =
          .error (.frozen ref) (start.after script).store) ∧
      (freezeOf (.builder ref)).run (start.after script).store =
        .ok (.builder ref) (start.after script).store) ∧
    (∀ ref, (start.after script).store.Has ref → (∀ i, ref ≠ .batch i) →
      (∃ ref' s', (copyOf (.builder ref)).run (start.after script).store = .ok (.builder ref') s' ∧
        ¬ (start.after script).store.Has ref' ∧
        s'.view ref' = ((start.after script).store.view ref).map fun v => v.marked false) ∧
      (∃ ref' s', (freezeOf (.builder ref)).run (start.after script).store =
          .ok (.builder ref') s' ∧
        s'.view ref' = ((start.after script).store.view ref).map fun v => v.marked true)) := by
  have hwf := after_wellFormed wellFormed_start script
  refine ⟨fun _ _ _ h h' => h.unique hwf.store h', fun i u c hu hc =>
    (hwf.store.units i u hu).clause c hc, ?_, ?_, fun ref hhas hkind =>
    ⟨copyOf_view hwf.store hhas hkind, freezeOf_view hwf.store hhas hkind⟩⟩
  · intro step ref hhas hother
    have hleads := run_leads hwf step
    refine Store.view_eq (hleads.frame ref hhas ?_) fun c howns =>
      hleads.frame _ (howns.has hwf.store) ?_
    · rintro ⟨o, ho, rfl | howned⟩
      · exact (hother _ ho).1 rfl
      · exact (hother o ho).2.1 howned
    · -- The clause of the builder is changed through it, or is itself what the step changes.
      rintro ⟨o, ho, rfl | howned⟩
      · exact (hother _ ho).2.2 howns
      · exact (hother o ho).1 (howns.unique hwf.store howned)
  · intro ref hfrozen
    refine ⟨fun later => (after_grows hwf later).view_of_frozen hwf.store hfrozen, ?_, ?_,
      freezeOf_frozen hfrozen⟩
    · rintro i value rfl
      obtain ⟨g, hg, hflag⟩ := hfrozen
      exact run_addToGroup_frozen hg hflag value
    · rintro i value rfl
      obtain ⟨u, hu, hflag⟩ := hfrozen
      exact ⟨run_addCriterion_frozen hu hflag value, run_addCommand_frozen hu hflag value⟩

end Session

end SwayControl
