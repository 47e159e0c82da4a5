import SwayControl.Proofs.Builder.Extension
import SwayControl.Proofs.Builder.Update

/-!
What each operation on builders does, as one equation: the outcome and the store after it, written with
the updates of a store. A failed operation is part of the equation, with what it has changed by then.
-/

namespace SwayControl

namespace Building

variable {α β : Type} {s s' : Store} {i : Nat}

theorem run_bind_ok {x : Building α} {f : α → Building β} {a : α} (h : x.run s = .ok a s') :
    (x >>= f).run s = (f a).run s' := by
  rw [EStateM.run_bind, h]

theorem run_bind_error {x : Building α} {f : α → Building β} {fault : Fault}
    (h : x.run s = .error fault s') : (x >>= f).run s = .error fault s' := by
  rw [EStateM.run_bind, h]

theorem run_map_ok {x : Building α} {f : α → β} {a : α} (h : x.run s = .ok a s') :
    (f <$> x).run s = .ok (f a) s' := by
  rw [map_eq_pure_bind, run_bind_ok h, EStateM.run_pure]

theorem run_map_error {x : Building α} {f : α → β} {fault : Fault}
    (h : x.run s = .error fault s') : (f <$> x).run s = .error fault s' := by
  rw [map_eq_pure_bind, run_bind_error h]

/-! ### How an operation ends -/

/-- What is said of an operation's answer and of its fault, each with the store that it leaves. The
judgements `Reads`, `Runs`, `Evolving` and `Makes` are all of this form. -/
def Ends (x : Building α) (s : Store) (answers : α → Store → Prop) (raises : Fault → Store → Prop) :
    Prop :=
  match x.run s with
  | .ok a s' => answers a s'
  | .error fault s' => raises fault s'

section

variable {x y : Building α} {f : α → Building β} {answers answers' : α → Store → Prop}
  {raises raises' : Fault → Store → Prop}

theorem Ends.of_run_eq (hrun : x.run s = y.run s') (hy : Ends y s' answers raises) :
    Ends x s answers raises := by
  unfold Ends at hy ⊢
  rwa [hrun]

theorem Ends.imp (hx : Ends x s answers raises) (hanswers : ∀ a s', answers a s' → answers' a s')
    (hraises : ∀ fault s', raises fault s' → raises' fault s') : Ends x s answers' raises' := by
  unfold Ends at hx ⊢
  cases hrun : x.run s with
  | ok a s' =>
      simp only [hrun] at hx
      exact hanswers a s' hx
  | error fault s' =>
      simp only [hrun] at hx
      exact hraises fault s' hx

/-- A sequence ends with the fault of its first operation, or as what follows its answer ends. -/
theorem Ends.bind {last : β → Store → Prop} (hx : Ends x s answers raises)
    (hanswers : ∀ a s', x.run s = .ok a s' → answers a s' → Ends (f a) s' last raises')
    (hraises : ∀ fault s', x.run s = .error fault s' → raises fault s' → raises' fault s') :
    Ends (x >>= f) s last raises' := by
  unfold Ends at hx
  cases hrun : x.run s with
  | ok a s' =>
      simp only [hrun] at hx
      exact Ends.of_run_eq (run_bind_ok hrun) (hanswers a s' hrun hx)
  | error fault s' =>
      simp only [hrun] at hx
      unfold Ends
      rw [run_bind_error hrun]
      exact hraises fault s' hrun hx

end

/-! ### The operations -/

theorem run_throw_fault (fault : Fault) :
    (throw fault : Building α).run s = .error fault s := rfl

theorem run_refuse (value : Value) :
    (refuse value : Building α).run s = .error (.refused ⟨.field, value⟩) s := rfl

theorem run_ofReading_ok {reading : Reading α} {a : α} (h : reading = .ok a) :
    (ofReading reading).run s = .ok a s := by
  subst h; rfl

theorem run_ofReading_error {reading : Reading α} {refusal : Refusal}
    (h : reading = .error refusal) : (ofReading reading).run s = .error (.refused refusal) s := by
  subst h; rfl

theorem run_group {g : CriteriaGroup} (h : s.groups[i]? = some g) : (group i).run s = .ok g s := by
  simp only [group, EStateM.run_bind, EStateM.run_get, h, EStateM.run_pure]

theorem run_unit {u : TargetedUnit} (h : s.units[i]? = some u) : (unit i).run s = .ok u s := by
  simp only [unit, EStateM.run_bind, EStateM.run_get, h, EStateM.run_pure]

theorem run_batch {b : Batch} (h : s.batches[i]? = some b) : (batch i).run s = .ok b s := by
  simp only [batch, EStateM.run_bind, EStateM.run_get, h, EStateM.run_pure]

theorem run_group_none (h : s.groups[i]? = none) :
    (group i).run s = .error (.refused ⟨.field, .builder (.group i)⟩) s := by
  simp only [group, EStateM.run_bind, EStateM.run_get, h]
  rfl

theorem run_unit_none (h : s.units[i]? = none) :
    (unit i).run s = .error (.refused ⟨.field, .builder (.unit i)⟩) s := by
  simp only [unit, EStateM.run_bind, EStateM.run_get, h]
  rfl

theorem run_batch_none (h : s.batches[i]? = none) :
    (batch i).run s = .error (.refused ⟨.field, .builder (.batch i)⟩) s := by
  simp only [batch, EStateM.run_bind, EStateM.run_get, h]
  rfl

/-- Changing an entry of a list in place is replacing it by what it becomes. -/
theorem modify_eq_set_of_getElem? {l : List α} {a : α} (h : l[i]? = some a) (f : α → α) :
    l.modify i f = l.set i (f a) := by
  apply List.ext_getElem?
  intro j
  have hi : i < l.length := (List.getElem?_eq_some_iff.mp h).1
  by_cases hij : i = j
  · subst hij
    rw [List.getElem?_modify_eq, List.getElem?_set_self hi, h]
    rfl
  · rw [List.getElem?_modify_ne f l hij, List.getElem?_set_ne hij]

theorem run_modifyGroup {g : CriteriaGroup} (h : s.groups[i]? = some g)
    (change : CriteriaGroup → CriteriaGroup) :
    (modifyGroup i change).run s = .ok () (s.setGroup i (change g)) := by
  simp only [modifyGroup, EStateM.run_modify, modify_eq_set_of_getElem? h, Store.setGroup]

theorem run_modifyUnit {u : TargetedUnit} (h : s.units[i]? = some u)
    (change : TargetedUnit → TargetedUnit) :
    (modifyUnit i change).run s = .ok () (s.setUnit i (change u)) := by
  simp only [modifyUnit, EStateM.run_modify, modify_eq_set_of_getElem? h, Store.setUnit]

theorem run_modifyBatch {b : Batch} (h : s.batches[i]? = some b) (change : Batch → Batch) :
    (modifyBatch i change).run s = .ok () (s.setBatch i (change b)) := by
  simp only [modifyBatch, EStateM.run_modify, modify_eq_set_of_getElem? h, Store.setBatch]

theorem run_startUnit : startUnit.run s = .ok s.units.length (s.addUnit ⟨none, [], "", false⟩) := rfl

theorem run_startBatch : startBatch.run s = .ok s.batches.length (s.addBatch ⟨[], ""⟩) := rfl

/-- A new group of one criterion has the clause of that criterion for a text. -/
theorem run_startGroup_ok {value : Value} {criterion : Criterion}
    (hvalue : value.readCriterion = .ok criterion) :
    (startGroup value).run s =
      .ok s.groups.length (s.addGroup ⟨[value], bracketed [criterion.render], false⟩) := by
  have htext : (Criterion.render <$> value.readCriterion) = .ok criterion.render := by
    rw [hvalue]; rfl
  simp only [startGroup, criterionText]
  rw [run_bind_ok (run_ofReading_ok htext)]
  rfl

theorem run_startGroup_error {value : Value} {refusal : Refusal}
    (hvalue : value.readCriterion = .error refusal) :
    (startGroup value).run s = .error (.refused refusal) s := by
  have htext : (Criterion.render <$> value.readCriterion) = .error refusal := by
    rw [hvalue]; rfl
  simp only [startGroup, criterionText]
  rw [run_bind_error (run_ofReading_error htext)]

theorem run_addToGroup_none (hg : s.groups[i]? = none) (value : Value) :
    (addToGroup i value).run s = .error (.refused ⟨.field, .builder (.group i)⟩) s := by
  simp only [addToGroup]
  rw [run_bind_error (run_group_none hg)]

theorem run_addToGroup_frozen {g : CriteriaGroup} (hg : s.groups[i]? = some g)
    (hfrozen : g.frozen = true) (value : Value) :
    (addToGroup i value).run s = .error (.frozen (.group i)) s := by
  simp only [addToGroup]
  rw [run_bind_ok (run_group hg), hfrozen]
  rfl

/-- Adding to a group that is not frozen extends its criteria and its text. -/
theorem run_addToGroup_ok {g : CriteriaGroup} (hg : s.groups[i]? = some g)
    (hfrozen : g.frozen = false) {value : Value} {criterion : Criterion}
    (hvalue : value.readCriterion = .ok criterion) :
    (addToGroup i value).run s = .ok () (s.setGroup i
      ⟨g.criteria ++ [value], extendClause g.text criterion.render, false⟩) := by
  have htext : (Criterion.render <$> value.readCriterion) = .ok criterion.render := by
    rw [hvalue]; rfl
  have hi : i < s.groups.length := Store.has_group hg
  simp only [addToGroup, criterionText]
  rw [run_bind_ok (run_group hg), hfrozen]
  simp only [Bool.false_eq_true, if_false]
  rw [run_bind_ok (run_modifyGroup hg _), run_bind_ok (run_ofReading_ok htext),
    run_modifyGroup (List.getElem?_set_self hi)]
  simp only [Store.setGroup, List.set_set, hfrozen]

/-- A criterion that cannot be written stays in the group, and only the text is as before. -/
theorem run_addToGroup_error {g : CriteriaGroup} (hg : s.groups[i]? = some g)
    (hfrozen : g.frozen = false) {value : Value} {refusal : Refusal}
    (hvalue : value.readCriterion = .error refusal) :
    (addToGroup i value).run s = .error (.refused refusal) (s.setGroup i
      ⟨g.criteria ++ [value], g.text, false⟩) := by
  have htext : (Criterion.render <$> value.readCriterion) = .error refusal := by
    rw [hvalue]; rfl
  simp only [addToGroup, criterionText]
  rw [run_bind_ok (run_group hg), hfrozen]
  simp only [Bool.false_eq_true, if_false]
  rw [run_bind_ok (run_modifyGroup hg _), run_bind_error (run_ofReading_error htext), ← hfrozen]

theorem run_copyGroup_none (hg : s.groups[i]? = none) :
    (copyGroup i).run s = .error (.refused ⟨.field, .builder (.group i)⟩) s := by
  simp only [copyGroup]
  rw [run_bind_error (run_group_none hg)]

/-- A copy of a group is a new group with what the group holds, and is not frozen. -/
theorem run_copyGroup {g : CriteriaGroup} (hg : s.groups[i]? = some g) :
    (copyGroup i).run s = .ok s.groups.length (s.addGroup ⟨g.criteria, g.text, false⟩) := by
  simp only [copyGroup]
  rw [run_bind_ok (run_group hg)]
  rfl

theorem run_freezeGroup_none (hg : s.groups[i]? = none) :
    (freezeGroup i).run s = .error (.refused ⟨.field, .builder (.group i)⟩) s := by
  simp only [freezeGroup]
  rw [run_bind_error (run_group_none hg)]

theorem run_freezeGroup_frozen {g : CriteriaGroup} (hg : s.groups[i]? = some g)
    (hfrozen : g.frozen = true) : (freezeGroup i).run s = .ok i s := by
  simp only [freezeGroup]
  rw [run_bind_ok (run_group hg), hfrozen]
  rfl

/-- Freezing a group that is not frozen makes a new group with what the group holds. -/
theorem run_freezeGroup_copy {g : CriteriaGroup} (hg : s.groups[i]? = some g)
    (hfrozen : g.frozen = false) :
    (freezeGroup i).run s = .ok s.groups.length (s.addGroup ⟨g.criteria, g.text, true⟩) := by
  simp only [freezeGroup]
  rw [run_bind_ok (run_group hg), hfrozen]
  simp only [Bool.false_eq_true, if_false]
  rw [run_bind_ok (run_copyGroup hg), run_bind_ok (run_modifyGroup List.getElem?_concat_length _)]
  simp only [Store.setGroup, Store.addGroup, List.set_append_right _ _ (Nat.le_refl _),
    Nat.sub_self, List.set_cons_zero, EStateM.run_pure]

theorem run_editableUnit_frozen {u : TargetedUnit} (hu : s.units[i]? = some u)
    (hfrozen : u.frozen = true) : (editableUnit i).run s = .error (.frozen (.unit i)) s := by
  simp only [editableUnit]
  rw [run_bind_ok (run_unit hu), hfrozen]
  rfl

theorem run_editableUnit {u : TargetedUnit} (hu : s.units[i]? = some u)
    (hfrozen : u.frozen = false) : (editableUnit i).run s = .ok u s := by
  simp only [editableUnit]
  rw [run_bind_ok (run_unit hu), hfrozen]
  rfl

theorem run_addCommand_none (hu : s.units[i]? = none) (value : Value) :
    (addCommand i value).run s = .error (.refused ⟨.field, .builder (.unit i)⟩) s := by
  simp only [addCommand, editableUnit]
  rw [run_bind_error (run_bind_error (run_unit_none hu))]

theorem run_addCommand_frozen {u : TargetedUnit} (hu : s.units[i]? = some u)
    (hfrozen : u.frozen = true) (value : Value) :
    (addCommand i value).run s = .error (.frozen (.unit i)) s := by
  simp only [addCommand]
  rw [run_bind_error (run_editableUnit_frozen hu hfrozen)]

/-- Adding a sub-command to a unit that is not frozen puts it behind a separator. -/
theorem run_addCommand_ok {u : TargetedUnit} (hu : s.units[i]? = some u)
    (hfrozen : u.frozen = false) {value : Value} {command : SubCommand}
    (hvalue : value.readSubCommand = .ok command) :
    (addCommand i value).run s = .ok () (s.setUnit i
      ⟨u.clause, u.commands ++ [value], u.separated.text ++ command.render, false⟩) := by
  have htext : (SubCommand.render <$> value.readSubCommand) = .ok command.render := by
    rw [hvalue]; rfl
  have hi : i < s.units.length := Store.has_unit hu
  simp only [addCommand, subCommandText]
  rw [run_bind_ok (run_editableUnit hu hfrozen)]
  cases hempty : u.commands.isEmpty with
  | true =>
      simp only [Bool.not_true, Bool.false_eq_true, if_false, TargetedUnit.separated, hempty, if_true]
      rw [run_bind_ok (run_ofReading_ok htext), run_modifyUnit hu, ← hfrozen]
  | false =>
      simp only [Bool.not_false, if_true, TargetedUnit.separated, hempty, Bool.false_eq_true, if_false]
      rw [run_bind_ok (run_modifyUnit hu _), run_bind_ok (run_ofReading_ok htext),
        run_modifyUnit (List.getElem?_set_self hi)]
      simp only [Store.setUnit, List.set_set, hfrozen]

/-- The separator stays where the sub-command cannot be written. -/
theorem run_addCommand_error {u : TargetedUnit} (hu : s.units[i]? = some u)
    (hfrozen : u.frozen = false) {value : Value} {refusal : Refusal}
    (hvalue : value.readSubCommand = .error refusal) :
    (addCommand i value).run s = .error (.refused refusal) (s.setUnit i u.separated) := by
  have htext : (SubCommand.render <$> value.readSubCommand) = .error refusal := by
    rw [hvalue]; rfl
  simp only [addCommand, subCommandText]
  rw [run_bind_ok (run_editableUnit hu hfrozen)]
  cases hempty : u.commands.isEmpty with
  | true =>
      simp only [Bool.not_true, Bool.false_eq_true, if_false, TargetedUnit.separated, hempty, if_true]
      rw [run_bind_error (run_ofReading_error htext), Store.setUnit_self hu]
  | false =>
      simp only [Bool.not_false, if_true, TargetedUnit.separated, hempty, Bool.false_eq_true, if_false]
      rw [run_bind_ok (run_modifyUnit hu _), run_bind_error (run_ofReading_error htext)]

theorem run_copyUnit_none (hu : s.units[i]? = none) :
    (copyUnit i).run s = .error (.refused ⟨.field, .builder (.unit i)⟩) s := by
  simp only [copyUnit]
  rw [run_bind_error (run_unit_none hu)]

/-- A copy of a unit is a new unit with what the unit holds, and is not frozen. Its clause is a copy of
the unit's. -/
theorem run_copyUnit_bare {u : TargetedUnit} (hu : s.units[i]? = some u) (hc : u.clause = none) :
    (copyUnit i).run s = .ok s.units.length (s.addUnit ⟨none, u.commands, u.text, false⟩) := by
  simp only [copyUnit]
  rw [run_bind_ok (run_unit hu), hc]
  rfl

theorem run_copyUnit_clause {u : TargetedUnit} {c : Nat} {g : CriteriaGroup}
    (hu : s.units[i]? = some u) (hc : u.clause = some c) (hg : s.groups[c]? = some g) :
    (copyUnit i).run s = .ok s.units.length ((s.addGroup ⟨g.criteria, g.text, false⟩).addUnit
      ⟨some s.groups.length, u.commands, u.text, false⟩) := by
  have hclause : (Option.mapM copyGroup (some c)).run s =
      .ok (some s.groups.length) (s.addGroup ⟨g.criteria, g.text, false⟩) := by
    rw [Option.mapM_some, run_map_ok (run_copyGroup hg)]
  simp only [copyUnit]
  rw [run_bind_ok (run_unit hu), hc, run_bind_ok hclause]
  rfl

theorem run_freezeUnit_none (hu : s.units[i]? = none) :
    (freezeUnit i).run s = .error (.refused ⟨.field, .builder (.unit i)⟩) s := by
  simp only [freezeUnit]
  rw [run_bind_error (run_unit_none hu)]

theorem run_freezeUnit_frozen {u : TargetedUnit} (hu : s.units[i]? = some u)
    (hfrozen : u.frozen = true) : (freezeUnit i).run s = .ok i s := by
  simp only [freezeUnit]
  rw [run_bind_ok (run_unit hu), hfrozen]
  rfl

/-- Freezing a unit that is not frozen makes a new unit with what the unit holds. -/
theorem run_freezeUnit_bare {u : TargetedUnit} (hu : s.units[i]? = some u)
    (hfrozen : u.frozen = false) (hc : u.clause = none) :
    (freezeUnit i).run s = .ok s.units.length (s.addUnit ⟨none, u.commands, u.text, true⟩) := by
  simp only [freezeUnit]
  rw [run_bind_ok (run_unit hu), hfrozen]
  simp only [Bool.false_eq_true, if_false]
  rw [run_bind_ok (run_copyUnit_bare hu hc), run_bind_ok (run_unit List.getElem?_concat_length)]
  simp only [Option.mapM_none]
  rw [run_bind_ok (EStateM.run_pure _ _),
    run_bind_ok (run_modifyUnit List.getElem?_concat_length _)]
  simp only [Store.setUnit, Store.addUnit, List.set_append_right _ _ (Nat.le_refl _),
    Nat.sub_self, List.set_cons_zero, EStateM.run_pure]

/-- The clause of a frozen copy is the second of two copies: the first is the clause of the copy that is
then frozen, and belongs to no unit afterwards. -/
theorem run_freezeUnit_clause {u : TargetedUnit} {c : Nat} {g : CriteriaGroup}
    (hu : s.units[i]? = some u) (hfrozen : u.frozen = false) (hc : u.clause = some c)
    (hg : s.groups[c]? = some g) :
    (freezeUnit i).run s = .ok s.units.length
      (((s.addGroup ⟨g.criteria, g.text, false⟩).addGroup ⟨g.criteria, g.text, true⟩).addUnit
        ⟨some (s.groups.length + 1), u.commands, u.text, true⟩) := by
  simp only [freezeUnit]
  rw [run_bind_ok (run_unit hu), hfrozen]
  simp only [Bool.false_eq_true, if_false]
  rw [run_bind_ok (run_copyUnit_clause hu hc hg),
    run_bind_ok (run_unit List.getElem?_concat_length)]
  simp only [Option.mapM_some]
  rw [run_bind_ok (run_map_ok (run_freezeGroup_copy List.getElem?_concat_length rfl)),
    run_bind_ok (run_modifyUnit List.getElem?_concat_length _)]
  simp only [Store.setUnit, Store.addUnit, Store.addGroup,
    List.set_append_right _ _ (Nat.le_refl _), Nat.sub_self, List.set_cons_zero,
    List.length_append, List.length_singleton, EStateM.run_pure]

/-- Appending to a batch makes the entry first and then puts it behind a separator. -/
theorem run_append_ok {value kept : Value} {b : Batch} {text : String}
    (hentry : (entry value).run s = .ok kept s') (hb : s'.batches[i]? = some b)
    (htext : kept.commandText (s'.setBatch i b.separated).texts = .ok text) :
    (append i value).run s =
      .ok () (s'.setBatch i ⟨b.commands ++ [kept], b.separated.text ++ text⟩) := by
  have hi : i < s'.batches.length := Store.has_batch hb
  have hread : (commandText kept).run (s'.setBatch i b.separated) =
      .ok text (s'.setBatch i b.separated) := by
    simp only [commandText, EStateM.run_bind, EStateM.run_get]
    exact run_ofReading_ok htext
  simp only [append]
  rw [run_bind_ok hentry, run_bind_ok (run_batch hb)]
  cases hempty : b.commands.isEmpty with
  | true =>
      simp only [Batch.separated, hempty, if_true, Store.setBatch_self hb] at hread
      simp only [Bool.not_true, Bool.false_eq_true, if_false, Batch.separated, hempty, if_true]
      rw [run_bind_ok hread, run_modifyBatch hb]
  | false =>
      simp only [Batch.separated, hempty, Bool.false_eq_true, if_false] at hread
      simp only [Bool.not_false, if_true, Batch.separated, hempty, Bool.false_eq_true, if_false]
      rw [run_bind_ok (run_modifyBatch hb _), run_bind_ok hread,
        run_modifyBatch (List.getElem?_set_self hi)]
      simp only [Store.setBatch, List.set_set]

/-- The separator stays where the command cannot be written. -/
theorem run_append_error {value kept : Value} {b : Batch} {refusal : Refusal}
    (hentry : (entry value).run s = .ok kept s') (hb : s'.batches[i]? = some b)
    (htext : kept.commandText (s'.setBatch i b.separated).texts = .error refusal) :
    (append i value).run s = .error (.refused refusal) (s'.setBatch i b.separated) := by
  have hread : (commandText kept).run (s'.setBatch i b.separated) =
      .error (.refused refusal) (s'.setBatch i b.separated) := by
    simp only [commandText, EStateM.run_bind, EStateM.run_get]
    exact run_ofReading_error htext
  simp only [append]
  rw [run_bind_ok hentry, run_bind_ok (run_batch hb)]
  cases hempty : b.commands.isEmpty with
  | true =>
      simp only [Batch.separated, hempty, if_true, Store.setBatch_self hb] at hread
      simp only [Bool.not_true, Bool.false_eq_true, if_false, Batch.separated, hempty, if_true,
        Store.setBatch_self hb]
      rw [run_bind_error hread]
  | false =>
      simp only [Batch.separated, hempty, Bool.false_eq_true, if_false] at hread
      simp only [Bool.not_false, if_true, Batch.separated, hempty, Bool.false_eq_true, if_false]
      rw [run_bind_ok (run_modifyBatch hb _), run_bind_error hread]

theorem run_addCriterion_none (hu : s.units[i]? = none) (value : Value) :
    (addCriterion i value).run s = .error (.refused ⟨.field, .builder (.unit i)⟩) s := by
  simp only [addCriterion, editableUnit]
  rw [run_bind_error (run_bind_error (run_unit_none hu))]

theorem run_addCriterion_frozen {u : TargetedUnit} (hu : s.units[i]? = some u)
    (hfrozen : u.frozen = true) (value : Value) :
    (addCriterion i value).run s = .error (.frozen (.unit i)) s := by
  simp only [addCriterion]
  rw [run_bind_error (run_editableUnit_frozen hu hfrozen)]

/-- Once its clause is settled, a unit takes the text of that clause and its sub-commands, whether it
copies the text of the clause or is written anew. -/
theorem run_addCriterion_of_clause {u v : TargetedUnit} {c : Nat} {g : CriteriaGroup} {value : Value}
    {written : List String} (hu : s.units[i]? = some u) (hfrozen : u.frozen = false)
    (hclause : (extendUnitClause i u.clause value).run s = .ok c s')
    (hv : s'.units[i]? = some v) (hcommands : v.commands = u.commands) (hc : v.clause = some c)
    (hg : s'.groups[c]? = some g)
    (hwritten : (u.commands.mapM fun command => SubCommand.render <$> command.readSubCommand) =
      Except.ok written) :
    (addCriterion i value).run s = .ok () ((s'.setUnit i
      ⟨some c, u.commands, g.text ++ subCommandSeparator.intercalate written, v.frozen⟩).rebuilt u) := by
  simp only [addCriterion]
  rw [run_bind_ok (run_editableUnit hu hfrozen), run_bind_ok hclause]
  cases hempty : u.commands.isEmpty with
  | true =>
      have hnil : written = [] :=
        (mapM_ok_eq_nil_iff hwritten).mpr (List.isEmpty_iff.mp hempty)
      simp only [if_true, Store.rebuilt, hempty]
      rw [run_bind_ok (run_group hg), run_modifyUnit hv, hnil, String.intercalate_nil,
        String.append_empty, ← hcommands, ← hc]
  | false =>
      have hv' : (s'.noted u.commands.length).units[i]? = some v := hv
      have htext : unitText (s'.noted u.commands.length).texts v.clause v.commands =
          .ok (g.text ++ subCommandSeparator.intercalate written) := by
        rw [hcommands, unitText_of_written hwritten, hc]
        simp only [Option.elim_some, Store.texts, Store.noted, hg]
      have hread : (writtenUnit i).run (s'.noted u.commands.length) =
          .ok (g.text ++ subCommandSeparator.intercalate written)
            (s'.noted u.commands.length) := by
        simp only [writtenUnit]
        rw [run_bind_ok (run_unit hv')]
        simp only [EStateM.run_bind, EStateM.run_get]
        exact run_ofReading_ok htext
      have hnoted : (modify fun s => { s with rebuilds := s.rebuilds ++ [u.commands.length] } :
          Building Unit).run s' = .ok () (s'.noted u.commands.length) := rfl
      simp only [Bool.false_eq_true, if_false, Store.rebuilt, hempty]
      rw [run_bind_ok hnoted, run_bind_ok hread, run_modifyUnit hv', ← hcommands, ← hc]
      rfl

/-- A criterion for a unit that has none makes a clause for it. -/
theorem run_addCriterion_open {u : TargetedUnit} {value : Value} {criterion : Criterion}
    {written : List String} (hu : s.units[i]? = some u) (hfrozen : u.frozen = false)
    (hc : u.clause = none) (hvalue : value.readCriterion = .ok criterion)
    (hwritten : (u.commands.mapM fun command => SubCommand.render <$> command.readSubCommand) =
      Except.ok written) :
    (addCriterion i value).run s = .ok () (((s.addGroup
        ⟨[value], bracketed [criterion.render], false⟩).setUnit i
      ⟨some s.groups.length, u.commands,
        bracketed [criterion.render] ++ subCommandSeparator.intercalate written, false⟩).rebuilt u) := by
  have hi : i < s.units.length := Store.has_unit hu
  have hu' : (s.addGroup ⟨[value], bracketed [criterion.render], false⟩).units[i]? = some u := hu
  have hclause : (extendUnitClause i u.clause value).run s = .ok s.groups.length
      ((s.addGroup ⟨[value], bracketed [criterion.render], false⟩).setUnit i
        ⟨some s.groups.length, u.commands, u.text, u.frozen⟩) := by
    simp only [extendUnitClause, hc]
    rw [run_bind_ok (run_startGroup_ok hvalue), run_bind_ok (run_modifyUnit hu' _)]
    rfl
  rw [run_addCriterion_of_clause hu hfrozen hclause (List.getElem?_set_self hi) rfl rfl
    List.getElem?_concat_length hwritten]
  simp only [Store.setUnit, Store.addGroup, List.set_set, hfrozen]

/-- A criterion for a unit that has a clause extends that clause, and the unit's text follows. -/
theorem run_addCriterion_extend {u : TargetedUnit} {c : Nat} {g : CriteriaGroup} {value : Value}
    {criterion : Criterion} {written : List String} (hu : s.units[i]? = some u)
    (hfrozen : u.frozen = false) (hc : u.clause = some c) (hg : s.groups[c]? = some g)
    (hgfrozen : g.frozen = false) (hvalue : value.readCriterion = .ok criterion)
    (hwritten : (u.commands.mapM fun command => SubCommand.render <$> command.readSubCommand) =
      Except.ok written) :
    (addCriterion i value).run s = .ok () (((s.setGroup c
        ⟨g.criteria ++ [value], extendClause g.text criterion.render, false⟩).setUnit i
      ⟨some c, u.commands, extendClause g.text criterion.render ++
        subCommandSeparator.intercalate written, false⟩).rebuilt u) := by
  have hlt : c < s.groups.length := Store.has_group hg
  have hclause : (extendUnitClause i u.clause value).run s = .ok c
      (s.setGroup c ⟨g.criteria ++ [value], extendClause g.text criterion.render, false⟩) := by
    simp only [extendUnitClause, hc]
    rw [run_bind_ok (run_addToGroup_ok hg hgfrozen hvalue)]
    rfl
  rw [run_addCriterion_of_clause hu hfrozen hclause hu rfl hc (List.getElem?_set_self hlt) hwritten]
  simp only [hfrozen]

/-- A unit without a clause stays as it is if a criterion for it cannot be written. -/
theorem run_addCriterion_error_open {u : TargetedUnit} {value : Value} {refusal : Refusal}
    (hu : s.units[i]? = some u) (hfrozen : u.frozen = false) (hc : u.clause = none)
    (hvalue : value.readCriterion = .error refusal) :
    (addCriterion i value).run s = .error (.refused refusal) s := by
  have hclause : (extendUnitClause i u.clause value).run s = .error (.refused refusal) s := by
    simp only [extendUnitClause, hc]
    rw [run_bind_error (run_startGroup_error hvalue)]
  simp only [addCriterion]
  rw [run_bind_ok (run_editableUnit hu hfrozen), run_bind_error hclause]

/-- A criterion that cannot be written stays in the clause of a unit that has one. -/
theorem run_addCriterion_error_extend {u : TargetedUnit} {c : Nat} {g : CriteriaGroup} {value : Value}
    {refusal : Refusal} (hu : s.units[i]? = some u) (hfrozen : u.frozen = false)
    (hc : u.clause = some c) (hg : s.groups[c]? = some g) (hgfrozen : g.frozen = false)
    (hvalue : value.readCriterion = .error refusal) :
    (addCriterion i value).run s = .error (.refused refusal) (s.setGroup c
      ⟨g.criteria ++ [value], g.text, false⟩) := by
  have hclause : (extendUnitClause i u.clause value).run s = .error (.refused refusal)
      (s.setGroup c ⟨g.criteria ++ [value], g.text, false⟩) := by
    simp only [extendUnitClause, hc]
    rw [run_bind_error (run_addToGroup_error hg hgfrozen hvalue)]
  simp only [addCriterion]
  rw [run_bind_ok (run_editableUnit hu hfrozen), run_bind_error hclause]

end Building

end SwayControl
