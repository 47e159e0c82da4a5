import SwayControl.Proofs.Builder.Operation
import SwayControl.Proofs.Builder.Run

/-!
What the operations on groups, units and batches guarantee, one by one. Each proof reads the equation of
its operation case by case and names the updates that it is made of.
-/

namespace SwayControl

namespace Building

variable {target : Ref → Prop} {s s' : Store} {i : Nat} {value : Value}

/-- A new group of a held criterion is sound. -/
theorem soundGroup_singleton (hvalue : s.Holds value) (text : String) (frozen : Bool) :
    s.SoundGroup ⟨[value], text, frozen⟩ :=
  ⟨List.cons_ne_nil _ _, Store.holdsAll_iff.mpr fun _ hv => List.mem_singleton.mp hv ▸ hvalue⟩

theorem startGroup_runs (hwf : s.WellFormed) (hvalue : s.Holds value) :
    Runs target False [] (startGroup value) s fun j s' =>
      j = s.groups.length ∧ s'.Has (.group j) ∧ s'.Loose j := by
  cases hread : value.readCriterion with
  | ok criterion =>
      have hsound := soundGroup_singleton hvalue (bracketed [criterion.render]) false
      have hleads : s.Leads target (s.addGroup ⟨[value], bracketed [criterion.render], false⟩) :=
        hwf.leads_addGroup hsound
      refine Runs.of_ok (run_startGroup_ok hread) hleads ?_ ⟨rfl, ?_, ?_⟩
      · intro _ hinStep
        exact (hinStep.addGroup hwf hsound (clauseText_singleton hread)).keeps hwf hleads.grows rfl
      · exact Store.has_group List.getElem?_concat_length
      · exact hwf.loose_of_fresh (Nat.lt_irrefl s.groups.length)
  | error refusal => exact Runs.of_refused (run_startGroup_error hread) hwf.leads

/-- Adding to a group is safe for the texts unless the group is the clause of a unit, whose text does
not follow. -/
theorem addToGroup_runs (hwf : s.WellFormed) (hvalue : s.Holds value) (htarget : target (.group i)) :
    Runs target (¬ s.Loose i) [] (addToGroup i value) s fun _ s' => s'.units = s.units := by
  cases hg : s.groups[i]? with
  | none => exact Runs.of_untouched hwf (run_addToGroup_none hg value)
  | some g =>
      cases hfrozen : g.frozen with
      | true => exact Runs.of_untouched hwf (run_addToGroup_frozen hg hfrozen value)
      | false =>
          have hsound := hwf.groups i g hg
          have hleads (text : String) :
              s.Leads target (s.setGroup i ⟨g.criteria ++ [value], text, false⟩) :=
            hwf.leads_setGroup hg hfrozen rfl (List.prefix_append _ _)
              ⟨List.append_ne_nil_of_right_ne_nil _ (List.cons_ne_nil _ _),
                hsound.held.concat hvalue⟩ htarget
          cases hread : value.readCriterion with
          | ok criterion =>
              refine Runs.of_ok (run_addToGroup_ok hg hfrozen hread) (hleads _) ?_ rfl
              intro hnot hinStep
              have htext := clauseText_concat (hinStep.groups i g hg) hsound.nonempty hread
              exact (hinStep.setGroup hwf (hleads _).grows (Classical.not_not.mp hnot) htext).keeps
                hwf (hleads _).grows rfl
          | error refusal =>
              exact Runs.of_refused (run_addToGroup_error hg hfrozen hread) (hleads _)

/-- A copy of a group holds what the group holds, frozen or not. -/
theorem soundGroup_copy (hwf : s.WellFormed) {g : CriteriaGroup} (hg : s.groups[i]? = some g)
    (frozen : Bool) : s.SoundGroup ⟨g.criteria, g.text, frozen⟩ :=
  ⟨(hwf.groups i g hg).nonempty, (hwf.groups i g hg).held⟩

theorem copyGroup_runs (hwf : s.WellFormed) :
    Runs target False [] (copyGroup i) s fun j s' => s'.Has (.group j) := by
  cases hg : s.groups[i]? with
  | none => exact Runs.of_untouched hwf (run_copyGroup_none hg)
  | some g =>
      have hsound := soundGroup_copy hwf hg false
      have hleads : s.Leads target (s.addGroup ⟨g.criteria, g.text, false⟩) :=
        hwf.leads_addGroup hsound
      refine Runs.of_ok (run_copyGroup hg) hleads ?_ ?_
      · intro _ hinStep
        exact (hinStep.addGroup hwf hsound (hinStep.groups i g hg)).keeps hwf hleads.grows rfl
      · exact Store.has_group List.getElem?_concat_length

/-- Freezing a group gives a frozen group of the same text. -/
theorem freezeGroup_runs (hwf : s.WellFormed) :
    Runs target False [] (freezeGroup i) s fun j s' =>
      s'.Frozen (.group j) ∧ s'.texts (.group j) = s.texts (.group i) := by
  cases hg : s.groups[i]? with
  | none => exact Runs.of_untouched hwf (run_freezeGroup_none hg)
  | some g =>
      cases hfrozen : g.frozen with
      | true =>
          exact Runs.of_ok (run_freezeGroup_frozen hg hfrozen) hwf.leads
            (fun _ hinStep => Store.Keeps.refl hinStep) ⟨⟨g, hg, hfrozen⟩, rfl⟩
      | false =>
          have hsound := soundGroup_copy hwf hg true
          have hleads : s.Leads target (s.addGroup ⟨g.criteria, g.text, true⟩) :=
            hwf.leads_addGroup hsound
          have hnew : (s.addGroup ⟨g.criteria, g.text, true⟩).groups[s.groups.length]? =
              some ⟨g.criteria, g.text, true⟩ := List.getElem?_concat_length
          refine Runs.of_ok (run_freezeGroup_copy hg hfrozen) hleads ?_ ⟨⟨_, hnew, rfl⟩, ?_⟩
          · intro _ hinStep
            exact (hinStep.addGroup hwf hsound (hinStep.groups i g hg)).keeps hwf hleads.grows rfl
          · simp only [Store.texts, hnew, hg, Option.elim_some]

theorem startUnit_runs (hwf : s.WellFormed) :
    Runs target False [] startUnit s fun j s' =>
      j = s.units.length ∧ s'.units[j]? = some ⟨none, [], "", false⟩ := by
  have hsound : s.SoundUnit ⟨none, [], "", false⟩ :=
    ⟨trivial, ⟨[], rfl⟩, fun c hc => by cases hc⟩
  have hleads : s.Leads target (s.addUnit ⟨none, [], "", false⟩) :=
    hwf.leads_addUnit hsound fun c hc => by cases hc
  refine Runs.of_ok run_startUnit hleads ?_ ⟨rfl, List.getElem?_concat_length⟩
  intro _ hinStep
  exact (hinStep.addUnit hwf hsound (fun c hc => by cases hc) rfl).keeps hwf hleads.grows rfl

/-- Adding a sub-command puts it and its text behind those of the unit. -/
theorem addCommand_runs (hwf : s.WellFormed) (hvalue : s.Holds value) (htarget : target (.unit i)) :
    Runs target False [] (addCommand i value) s fun _ s' => ∃ u command,
      s.units[i]? = some u ∧ value.readSubCommand = .ok command ∧ s'.units[i]? =
        some ⟨u.clause, u.commands ++ [value], u.separated.text ++ command.render, false⟩ := by
  cases hu : s.units[i]? with
  | none => exact Runs.of_untouched hwf (run_addCommand_none hu value)
  | some u =>
      cases hfrozen : u.frozen with
      | true => exact Runs.of_untouched hwf (run_addCommand_frozen hu hfrozen value)
      | false =>
          have hsound := hwf.units i u hu
          obtain ⟨written, hwritten⟩ := hsound.written
          cases hread : value.readSubCommand with
          | ok command =>
              have hlast : (SubCommand.render <$> value.readSubCommand) =
                  Except.ok command.render := by rw [hread]; rfl
              have hsound' (text : String) :
                  s.SoundUnit ⟨u.clause, u.commands ++ [value], text, false⟩ :=
                ⟨hsound.held.concat hvalue, ⟨_, mapM_concat_ok hwritten hlast⟩,
                  fun c hc => hfrozen ▸ hsound.clause c hc⟩
              have hleads (text : String) : s.Leads target
                  (s.setUnit i ⟨u.clause, u.commands ++ [value], text, false⟩) :=
                hwf.leads_setUnit hu hfrozen rfl (fun _ hc => hc) (fun _ hc => Or.inl hc)
                  (List.prefix_append _ _) (hsound' text) htarget
              have hi : i < s.units.length := Store.has_unit hu
              refine Runs.of_ok (run_addCommand_ok hu hfrozen hread) (hleads _) ?_
                ⟨u, command, rfl, rfl, List.getElem?_set_self hi⟩
              intro _ hinStep
              have htext := unitText_concat (hinStep.units i u hu) hread
              exact (hinStep.setUnit hwf (hleads _).grows htext).keeps hwf (hleads _).grows rfl
          | error refusal =>
              apply Runs.of_refused (run_addCommand_error hu hfrozen hread)
              refine hwf.leads_setUnit hu hfrozen (by rw [u.separated_frozen, hfrozen])
                (fun c hc => by rwa [u.separated_clause])
                (fun c hc => Or.inl (by rwa [u.separated_clause] at hc))
                (u.separated_commands ▸ List.prefix_refl _) ?_ htarget
              exact ⟨by rw [u.separated_commands]; exact hsound.held,
                by rw [u.separated_commands]; exact hsound.written,
                fun c hc => by
                  rw [u.separated_frozen]
                  exact hsound.clause c (by rwa [u.separated_clause] at hc)⟩

/-- The clause that a unit gets with its first criterion is a new group. -/
theorem addCriterion_open_runs (hwf : s.WellFormed) (hvalue : s.Holds value) {u : TargetedUnit}
    (hu : s.units[i]? = some u) (hfrozen : u.frozen = false) (hc : u.clause = none)
    (htarget : target (.unit i)) :
    Runs target False [] (addCriterion i value) s fun _ s' =>
      ∃ u', s'.units[i]? = some u' ∧ u'.clause = some s.groups.length := by
  have hsound := hwf.units i u hu
  have hi : i < s.units.length := Store.has_unit hu
  obtain ⟨written, hwritten⟩ := hsound.written
  cases hread : value.readCriterion with
  | error refusal =>
      exact Runs.of_refused (run_addCriterion_error_open hu hfrozen hc hread) hwf.leads
  | ok criterion =>
      have hfresh : ¬ s.Has (.group s.groups.length) := Nat.lt_irrefl _
      have hgroup := soundGroup_singleton hvalue (bracketed [criterion.render]) false
      have hadd : s.Leads (fun ref => target ref ∨ ¬ s.Has ref)
          (s.addGroup ⟨[value], bracketed [criterion.render], false⟩) := hwf.leads_addGroup hgroup
      have hnew : (s.addGroup ⟨[value], bracketed [criterion.render], false⟩).groups[
          s.groups.length]? = some ⟨[value], bracketed [criterion.render], false⟩ :=
        List.getElem?_concat_length
      have hset : (s.addGroup ⟨[value], bracketed [criterion.render], false⟩).Leads
          (fun ref => target ref ∨ ¬ s.Has ref)
          ((s.addGroup ⟨[value], bracketed [criterion.render], false⟩).setUnit i
            ⟨some s.groups.length, u.commands,
              bracketed [criterion.render] ++ subCommandSeparator.intercalate written, false⟩) :=
        hadd.wellFormed.leads_setUnit hu hfrozen rfl (fun c hc' => by rw [hc] at hc'; cases hc')
        (fun c hc' => by
          cases hc'
          exact Or.inr ⟨hwf.loose_of_fresh hfresh, Or.inr hfresh⟩)
        (List.prefix_refl _)
        ⟨hadd.grows.holdsAll _ hsound.held, ⟨written, hwritten⟩, fun c hc' => by
          cases hc'
          exact ⟨_, hnew, rfl⟩⟩
        (Or.inl htarget)
      have hleads := (hadd.trans hset).trans (hset.wellFormed.leads_rebuilt u)
      refine Runs.of_ok (run_addCriterion_open hu hfrozen hc hread hwritten)
        (hleads.mono fun ref href ht => ht.resolve_right (not_not_intro href)) ?_
        ⟨_, by rw [Store.rebuilt_units]; exact List.getElem?_set_self hi, rfl⟩
      intro _ hinStep
      have hadded := hinStep.addGroup hwf hgroup (clauseText_singleton hread)
      have htext : unitText (s.addGroup ⟨[value], bracketed [criterion.render], false⟩).texts
          (some s.groups.length) u.commands =
            .ok (bracketed [criterion.render] ++ subCommandSeparator.intercalate written) := by
        rw [unitText_of_written hwritten]
        simp only [Option.elim_some, Store.texts, hnew]
      exact ((hadded.setUnit hadd.wellFormed hset.grows htext).rebuilt u).keeps hwf hleads.grows
        (Store.rebuilt_batches _ u)

/-- A unit's text follows its clause when a criterion is added through the unit. -/
theorem addCriterion_extend_runs (hwf : s.WellFormed) (hvalue : s.Holds value) {u : TargetedUnit}
    {c : Nat} (hu : s.units[i]? = some u) (hfrozen : u.frozen = false) (hc : u.clause = some c)
    (htarget : target (.unit i)) (htarget' : target (.group c)) :
    Runs target False [] (addCriterion i value) s fun _ s' =>
      ∃ u', s'.units[i]? = some u' ∧ u'.clause = some c := by
  have hsound := hwf.units i u hu
  have hi : i < s.units.length := Store.has_unit hu
  obtain ⟨written, hwritten⟩ := hsound.written
  obtain ⟨g, hg, hflag⟩ := hsound.clause c hc
  have hgfrozen : g.frozen = false := hflag.trans hfrozen
  have hlt : c < s.groups.length := Store.has_group hg
  have hgroup := hwf.groups c g hg
  have hedit (text : String) : s.Leads target (s.setGroup c ⟨g.criteria ++ [value], text, false⟩) :=
    hwf.leads_setGroup hg hgfrozen rfl (List.prefix_append _ _)
      ⟨List.append_ne_nil_of_right_ne_nil _ (List.cons_ne_nil _ _), hgroup.held.concat hvalue⟩
      htarget'
  cases hread : value.readCriterion with
  | error refusal =>
      exact Runs.of_refused (run_addCriterion_error_extend hu hfrozen hc hg hgfrozen hread) (hedit _)
  | ok criterion =>
      have hnew : (s.setGroup c ⟨g.criteria ++ [value], extendClause g.text criterion.render,
          false⟩).groups[c]? = some ⟨g.criteria ++ [value], extendClause g.text criterion.render,
          false⟩ := List.getElem?_set_self hlt
      have hset : (s.setGroup c ⟨g.criteria ++ [value], extendClause g.text criterion.render,
          false⟩).Leads target ((s.setGroup c ⟨g.criteria ++ [value],
            extendClause g.text criterion.render, false⟩).setUnit i ⟨some c, u.commands,
              extendClause g.text criterion.render ++ subCommandSeparator.intercalate written,
              false⟩) :=
        (hedit _).wellFormed.leads_setUnit hu hfrozen rfl (fun d hd => hc ▸ hd)
          (fun d hd => Or.inl (hc ▸ hd)) (List.prefix_refl _)
          ⟨(hedit _).grows.holdsAll _ hsound.held, ⟨written, hwritten⟩, fun d hd => by
            cases hd
            exact ⟨_, hnew, rfl⟩⟩
          htarget
      have hleads := ((hedit _).trans hset).trans (hset.wellFormed.leads_rebuilt u)
      refine Runs.of_ok (run_addCriterion_extend hu hfrozen hc hg hgfrozen hread hwritten) hleads ?_
        ⟨_, by rw [Store.rebuilt_units]; exact List.getElem?_set_self hi, rfl⟩
      intro _ hinStep
      have hclause := clauseText_concat (hinStep.groups c g hg) hgroup.nonempty hread
      have htext : unitText (s.setGroup c ⟨g.criteria ++ [value],
          extendClause g.text criterion.render, false⟩).texts (some c) u.commands = .ok
            (extendClause g.text criterion.render ++ subCommandSeparator.intercalate written) := by
        rw [unitText_of_written hwritten]
        simp only [Option.elim_some, Store.texts, hnew]
      exact ((hinStep.setClause hwf hu hc ((hedit _).trans hset).grows hclause htext).rebuilt u).keeps
        hwf hleads.grows (Store.rebuilt_batches _ u)

/-- Adding a criterion to a unit changes the unit and its clause, or gives it a clause of its own. -/
theorem addCriterion_runs (hwf : s.WellFormed) (hvalue : s.Holds value) (htarget : target (.unit i))
    (hclause : ∀ u c, s.units[i]? = some u → u.clause = some c → target (.group c)) :
    Runs target False [] (addCriterion i value) s fun _ s' => ∃ u', s'.units[i]? = some u' ∧
      ∀ c, u'.clause = some c → target (.group c) ∨ ¬ s.Has (.group c) := by
  cases hu : s.units[i]? with
  | none => exact Runs.of_untouched hwf (run_addCriterion_none hu value)
  | some u =>
      cases hfrozen : u.frozen with
      | true => exact Runs.of_untouched hwf (run_addCriterion_frozen hu hfrozen value)
      | false =>
          cases hc : u.clause with
          | none =>
              apply (addCriterion_open_runs hwf hvalue hu hfrozen hc htarget).imp
              rintro _ s' _ ⟨u', hu', hc'⟩
              refine ⟨u', hu', fun c hcc => Or.inr ?_⟩
              rw [hc'] at hcc
              cases hcc
              exact Nat.lt_irrefl _
          | some c =>
              have htarget' := hclause u c hu hc
              apply (addCriterion_extend_runs hwf hvalue hu hfrozen hc htarget htarget').imp
              rintro _ s' _ ⟨u', hu', hc'⟩
              refine ⟨u', hu', fun d hd => Or.inl ?_⟩
              rw [hc'] at hd
              cases hd
              exact htarget'

end Building

end SwayControl
