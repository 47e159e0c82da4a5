import SwayControl.Proofs.Builder.Script

/-!
Units and their live clauses. The clause of a unit is a group that callers can get hold of. A criterion
added to it directly reaches the clause but not the text of the unit, and this is the only way in which
accepted steps put a unit out of step: the units of all states of a script are in step exactly if no step
of it edits a clause past its unit.
-/

namespace SwayControl

/-- A clause with one more criterion is longer than it was. -/
theorem length_lt_extendClause (clause criterion : String) :
    clause.length < (extendClause clause criterion).length := by
  simp only [extendClause, String.length_append, String.length_ofList, List.length_dropLast,
    String.length_toList]
  have hspace : (" " : String).length = 1 := rfl
  have hbracket : ("]" : String).length = 1 := rfl
  omega

namespace Building

variable {s s' : Store} {i : Nat} {value : Value}

/-- When a criterion is added to a group, the group was not frozen and the criterion could be written. -/
theorem run_addToGroup_inv (hrun : (addToGroup i value).run s = .ok () s') :
    ∃ g criterion, s.groups[i]? = some g ∧ g.frozen = false ∧
      value.readCriterion = .ok criterion ∧ s' = s.setGroup i
        ⟨g.criteria ++ [value], extendClause g.text criterion.render, false⟩ := by
  cases hg : s.groups[i]? with
  | none =>
      rw [run_addToGroup_none hg] at hrun
      cases hrun
  | some g =>
      cases hfrozen : g.frozen with
      | true =>
          rw [run_addToGroup_frozen hg hfrozen] at hrun
          cases hrun
      | false =>
          cases hread : value.readCriterion with
          | error refusal =>
              rw [run_addToGroup_error hg hfrozen hread] at hrun
              cases hrun
          | ok criterion =>
              rw [run_addToGroup_ok hg hfrozen hread] at hrun
              cases hrun
              exact ⟨g, criterion, rfl, hfrozen, rfl, rfl⟩

theorem run_perform_add_inv {slots : Slots} {criterion : Expression} {answer : Answer}
    (hrun : (perform slots (.builder (.group i)) (.add criterion)).run s = .ok answer s') :
    ∃ v s₁, (criterion.build slots).run s = .ok v s₁ ∧ (addToGroup i v).run s₁ = .ok () s' := by
  simp only [perform] at hrun
  cases hbuild : (criterion.build slots).run s with
  | error fault s₁ =>
      rw [run_bind_error hbuild] at hrun
      cases hrun
  | ok v s₁ =>
      rw [run_bind_ok hbuild] at hrun
      cases hadd : (addToGroup i v).run s₁ with
      | error fault s₂ =>
          rw [run_bind_error hadd] at hrun
          cases hrun
      | ok _ s₂ =>
          rw [run_bind_ok hadd] at hrun
          cases hrun
          exact ⟨v, s₁, rfl, hadd⟩

end Building

namespace Session

open Building

variable {σ : Session} {step : Step}

/-- A step changes a group in place only by adding a criterion to it. -/
theorem mutated_group {i : Nat} (h : σ.mutated step = some (.group i)) : ∃ on criterion into,
    step = .call on (.add criterion) into ∧ σ.value on = .builder (.group i) := by
  cases step with
  | call on operation into =>
      simp only [mutated] at h
      unfold Operation.mutated at h
      split at h
      · rename_i criterion j hvalue
        cases h
        exact ⟨on, criterion, into, rfl, hvalue⟩
      all_goals cases h
  | _ => cases h

/-- Adding to a clause directly leaves its unit with the text of the shorter clause. -/
theorem EditsClause.out_of_step (h : σ.WellFormed) (hinStep : σ.store.InStep)
    (hedit : σ.EditsClause step) : ∃ (j : Nat) (u : TargetedUnit),
      (σ.run step).2.store.units[j]? = some u ∧
        unitText (σ.run step).2.store.texts u.clause u.commands ≠ .ok u.text := by
  obtain ⟨i, hmutated, howned, answer, hanswer⟩ := hedit
  obtain ⟨on, criterion, into, rfl, hvalue⟩ := mutated_group hmutated
  have hclause : ∃ (j : Nat) (u : TargetedUnit), σ.store.units[j]? = some u ∧
      u.clause = some i := by
    simpa [Store.Loose] using howned
  obtain ⟨j, u, hu, hc⟩ := hclause
  cases hrun : (σ.action (.call on (.add criterion) into)).run σ.store with
  | error fault s =>
      rw [run_of_error hrun] at hanswer
      cases hanswer
  | ok answer' s =>
      rw [(run_of_ok hrun).2.1]
      simp only [action, hvalue] at hrun
      obtain ⟨v, s₁, hbuild, hadd⟩ := run_perform_add_inv hrun
      have hruns : Runs (fun _ => False) False _ (criterion.build σ.slots) σ.store _ :=
        criterion.build_runs σ.slots σ.store h.store h.slots
      simp only [Runs, hbuild] at hruns
      obtain ⟨hleads, hkeeps, _⟩ := hruns
      -- Evaluating the criterion leaves the unit alone and in step with the clause as it was.
      have hsame : s₁.units[j]? = σ.store.units[j]? :=
        hleads.frame (.unit j) (Store.has_unit hu) not_false
      have hu₁ : s₁.units[j]? = some u := hsame.trans hu
      have htext := (hkeeps not_false hinStep).inStep.units j u hu₁
      obtain ⟨g, added, hg, _, _, rfl⟩ := run_addToGroup_inv hadd
      obtain ⟨written, hwritten⟩ := (hleads.wellFormed.units j u hu₁).written
      have hi : i < s₁.groups.length := Store.has_group hg
      refine ⟨j, u, hu₁, fun hstill => ?_⟩
      rw [unitText_of_written hwritten] at htext hstill
      have hlength := congrArg String.length
        ((Except.ok.inj hstill).trans (Except.ok.inj htext).symm)
      simp only [hc, Option.elim_some, Store.texts, Store.setGroup, hg, List.getElem?_set_self hi,
        String.length_append] at hlength
      have hlonger := length_lt_extendClause g.text added.render
      omega

/-- Along a script of accepted steps, all units of all states are in step exactly if no step edits a
clause past its unit. -/
theorem units_in_step_iff {script : List Step} (haccepts : Along Accepts start script) :
    (∀ before, before <+: script → ∀ (i : Nat) u, (start.after before).store.units[i]? = some u →
      unitText (start.after before).store.texts u.clause u.commands = .ok u.text) ↔
    Along (fun τ step => ¬ τ.EditsClause step) start script := by
  constructor
  · -- The first edit of a clause would come in a state in step and leave one that is not.
    suffices hgeneral : ∀ (σ : Session) (script : List Step), σ.WellFormed → σ.store.InStep →
        Along Accepts σ script → (∀ before, before <+: script → ∀ (i : Nat) u,
          (σ.after before).store.units[i]? = some u →
            unitText (σ.after before).store.texts u.clause u.commands = .ok u.text) →
        Along (fun τ step => ¬ τ.EditsClause step) σ script from
      hgeneral start script wellFormed_start Store.inStep_empty haccepts
    intro σ script
    induction script generalizing σ with
    | nil => exact fun _ _ _ _ => trivial
    | cons step rest ih =>
        intro hwf hinStep haccepts hunits
        have hclean : ¬ σ.EditsClause step := by
          intro hedit
          obtain ⟨j, u, hu, hout⟩ := hedit.out_of_step hwf hinStep
          exact hout (hunits [step] (List.prefix_append [step] rest) j u hu)
        have hstep := run_keeps hwf hinStep haccepts.1 hclean
        refine ⟨hclean, ih _ (run_wellFormed hwf step) hstep.inStep haccepts.2 ?_⟩
        intro before hbefore
        exact hunits (step :: before) (List.cons_prefix_cons.mpr ⟨rfl, hbefore⟩)
  · intro hclean before hbefore
    have horderly : Along Orderly start before := (haccepts.and hclean).before hbefore
    exact (after_keeps wellFormed_start Store.inStep_empty horderly).inStep.units

/-- A criterion that comes through the unit, after its sub-command. -/
def throughUnit : List Step :=
  [.assign "unit" (.unit [(.criterion, .record (.criterion .floating) []),
      (.command, .record (.subCommand .kill) [])] false),
    .call "unit" (.addCriterion (.record (.criterion .tiling) [])) none]

theorem throughUnit_in_step : Along Accepts start throughUnit ∧
    ∀ before, before <+: throughUnit → ∀ (i : Nat) u,
      (start.after before).store.units[i]? = some u →
        unitText (start.after before).store.texts u.clause u.commands = .ok u.text := by
  have haccepts : Along Accepts start throughUnit :=
    ⟨accepts_of_ok rfl, accepts_of_ok rfl, trivial⟩
  refine ⟨haccepts, (units_in_step_iff haccepts).mpr ⟨?_, ?_, trivial⟩⟩
  · rintro ⟨i, ⟨⟩, _⟩
  · rintro ⟨i, ⟨⟩, _⟩

/-- The same criterion for the same unit, added to the clause that the unit hands out. -/
def throughClause : List Step :=
  [.assign "unit" (.unit [(.criterion, .record (.criterion .floating) []),
      (.command, .record (.subCommand .kill) [])] false),
    .call "unit" .criteria (some "clause"),
    .call "clause" (.add (.record (.criterion .tiling) [])) none]

/-- No step fails, and still the unit's text is not what it is written as. -/
theorem throughClause_out_of_step :
    (Along (fun τ step => ∃ answer, (τ.run step).1 = .ok answer) start throughClause) ∧
    (start.after throughClause).store.units.map TargetedUnit.text = ["[floating]kill"] ∧
    (start.after throughClause).store.units.map (fun u =>
      unitText (start.after throughClause).store.texts u.clause u.commands) =
        [.ok "[floating tiling]kill"] :=
  ⟨⟨⟨_, rfl⟩, ⟨_, rfl⟩, ⟨_, rfl⟩, trivial⟩, rfl, rfl⟩

end Session

end SwayControl
