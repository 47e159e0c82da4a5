import SwayControl.Proofs.Builder.Separation

/-!
What failed changes leave behind. A refused criterion stays in its group, and a separator stays behind the
sub-commands of a unit or the commands of a batch when what should follow it is refused. The torn cases
are exactly those where something was written before the argument was looked at; every other failure
leaves all builders as they were.
-/

namespace SwayControl

/-- A change of a builder in place, with its argument. -/
inductive Mutation where
  | add (group : Nat) (value : Value)
  | addCriterion (unit : Nat) (value : Value)
  | addCommand (unit : Nat) (value : Value)
  | append (batch : Nat) (value : Value)

namespace Mutation

/-- The builder that a change is for. -/
def target : Mutation → Ref
  | .add i _ => .group i
  | .addCriterion i _ => .unit i
  | .addCommand i _ => .unit i
  | .append i _ => .batch i

/-- The argument of a change. -/
def value : Mutation → Value
  | .add _ value | .addCriterion _ value | .addCommand _ value | .append _ value => value

/-- The operation that makes a change. -/
def perform : Mutation → Building Unit
  | .add i value => Building.addToGroup i value
  | .addCriterion i value => Building.addCriterion i value
  | .addCommand i value => Building.addCommand i value
  | .append i value => Building.append i value

/-- Whether a change writes something before it can be refused: a criterion into a group, or a separator
behind what a unit or a batch has already. A sub-command for a batch is written, and refused, in a unit
of its own first. -/
def Tears (s : Store) : Mutation → Prop
  | .add i _ => ∃ g, s.groups[i]? = some g ∧ g.frozen = false
  | .addCriterion i _ => ∃ u c, s.units[i]? = some u ∧ u.frozen = false ∧ u.clause = some c
  | .addCommand i _ => ∃ u, s.units[i]? = some u ∧ u.frozen = false ∧ u.commands ≠ []
  | .append i value => (∃ b, s.batches[i]? = some b ∧ b.commands ≠ []) ∧
    ∀ form fields, value ≠ .record (.subCommand form) fields

end Mutation

namespace Store

/-- What a builder is written as from what it holds, if the store has it. -/
def rendered (s : Store) : Ref → Option (Reading String)
  | .group i => (s.groups[i]?).map fun g => clauseText g.criteria
  | .unit i => (s.units[i]?).map fun u => unitText s.texts u.clause u.commands
  | .batch i => (s.batches[i]?).map fun b => batchText s.texts b.commands

/-- Whether every builder of a store looks in another store as it did, and is written as it was. -/
def Unchanged (s s' : Store) : Prop :=
  ∀ ref, s.Has ref → s'.view ref = s.view ref ∧ s'.rendered ref = s.rendered ref

variable {s s' : Store}

theorem unchanged_refl (s : Store) : s.Unchanged s := fun _ _ => ⟨rfl, rfl⟩

/-- An operation without targets leaves every builder unchanged. -/
theorem Leads.unchanged (h : s.Leads (fun _ => False) s') (hwf : s.WellFormed) :
    s.Unchanged s' := by
  intro ref hhas
  have hsame (r : Ref) (hr : s.Has r) : s.Same s' r := h.frame r hr not_false
  refine ⟨view_eq (hsame ref hhas) fun c howns => hsame _ (howns.has hwf), ?_⟩
  cases ref with
  | group i =>
      have hgroup : s'.groups[i]? = s.groups[i]? := hsame _ hhas
      simp only [rendered, hgroup]
  | unit i =>
      have hunit : s'.units[i]? = s.units[i]? := hsame _ hhas
      simp only [rendered, hunit]
      cases hu : s.units[i]? with
      | none => rfl
      | some u =>
          simp only [Option.map_some]
          rw [unitText_congr fun c hc => (hsame _ (hwf.has_clause hu hc)).texts_eq]
  | batch i =>
      have hbatch : s'.batches[i]? = s.batches[i]? := hsame _ hhas
      simp only [rendered, hbatch]
      cases hb : s.batches[i]? with
      | none => rfl
      | some b =>
          simp only [Option.map_some]
          rw [batchText_congr fun entry hentry ref href =>
            (hsame ref ((hwf.batches i b hb).cited entry hentry ref href).has).texts_eq]

end Store

namespace Building

variable {s s' : Store} {i : Nat} {value : Value} {fault : Fault}

/-- A criterion that stays in a group shows among its criteria. -/
theorem not_unchanged_setGroup {g : CriteriaGroup} {text : String} {frozen : Bool}
    (hg : s.groups[i]? = some g) :
    ¬ s.Unchanged (s.setGroup i ⟨g.criteria ++ [value], text, frozen⟩) := by
  intro hsame
  have hi : i < s.groups.length := Store.has_group hg
  have hview := (hsame (.group i) hi).1
  rw [view_group hg, view_group (List.getElem?_set_self hi)] at hview
  have hcriteria := congrArg View.criteria (Option.some.inj hview)
  exact List.cons_ne_nil value [] (List.append_right_eq_self.mp hcriteria)

/-- A separator that stays behind sub-commands shows in the text of their unit. -/
theorem not_unchanged_separatedUnit {u : TargetedUnit} (hu : s.units[i]? = some u)
    (hcommands : u.commands ≠ []) : ¬ s.Unchanged (s.setUnit i u.separated) := by
  intro hsame
  have hi : i < s.units.length := Store.has_unit hu
  have htext := congrArg (Option.map View.text) (hsame (.unit i) hi).1
  simp [Store.view, Store.setUnit, List.getElem?_set_self hi, hu, TargetedUnit.separated, hcommands,
    subCommandSeparator] at htext

/-- A separator that stays behind commands shows in the text of their batch. -/
theorem not_unchanged_separatedBatch {b : Batch} (hb : s.batches[i]? = some b)
    (hb' : s'.batches[i]? = some b) (hcommands : b.commands ≠ []) :
    ¬ s.Unchanged (s'.setBatch i b.separated) := by
  intro hsame
  have hi : i < s.batches.length := Store.has_batch hb
  have hi' : i < s'.batches.length := Store.has_batch hb'
  have htext := congrArg (Option.map View.text) (hsame (.batch i) hi).1
  simp [Store.view, Store.setBatch, List.getElem?_set_self hi', hb, Batch.separated, hcommands,
    commandSeparator] at htext

/-- A failed addition to a group leaves its criterion there, unless the group is frozen or missing. -/
theorem add_failure (hrun : (addToGroup i value).run s = .error fault s') :
    s.Unchanged s' ↔ ¬ (Mutation.add i value).Tears s := by
  cases hg : s.groups[i]? with
  | none =>
      rw [run_addToGroup_none hg] at hrun
      cases hrun
      apply iff_of_true s.unchanged_refl
      rintro ⟨g, hg', _⟩
      cases hg.symm.trans hg'
  | some g =>
      cases hfrozen : g.frozen with
      | true =>
          rw [run_addToGroup_frozen hg hfrozen] at hrun
          cases hrun
          apply iff_of_true s.unchanged_refl
          rintro ⟨g', hg', hfrozen'⟩
          cases hg.symm.trans hg'
          cases hfrozen.symm.trans hfrozen'
      | false =>
          cases hread : value.readCriterion with
          | ok criterion =>
              rw [run_addToGroup_ok hg hfrozen hread] at hrun
              cases hrun
          | error refusal =>
              rw [run_addToGroup_error hg hfrozen hread] at hrun
              cases hrun
              exact iff_of_false (not_unchanged_setGroup hg) (not_not_intro ⟨g, hg, hfrozen⟩)

/-- A failed sub-command leaves a separator behind those that a unit has. -/
theorem addCommand_failure (hrun : (addCommand i value).run s = .error fault s') :
    s.Unchanged s' ↔ ¬ (Mutation.addCommand i value).Tears s := by
  cases hu : s.units[i]? with
  | none =>
      rw [run_addCommand_none hu] at hrun
      cases hrun
      apply iff_of_true s.unchanged_refl
      rintro ⟨u, hu', _⟩
      cases hu.symm.trans hu'
  | some u =>
      cases hfrozen : u.frozen with
      | true =>
          rw [run_addCommand_frozen hu hfrozen] at hrun
          cases hrun
          apply iff_of_true s.unchanged_refl
          rintro ⟨u', hu', hfrozen', _⟩
          cases hu.symm.trans hu'
          cases hfrozen.symm.trans hfrozen'
      | false =>
          cases hread : value.readSubCommand with
          | ok command =>
              rw [run_addCommand_ok hu hfrozen hread] at hrun
              cases hrun
          | error refusal =>
              rw [run_addCommand_error hu hfrozen hread] at hrun
              cases hrun
              by_cases hempty : u.commands = []
              · have hself : u.separated = u := by simp [TargetedUnit.separated, hempty]
                rw [hself, Store.setUnit_self hu]
                apply iff_of_true s.unchanged_refl
                rintro ⟨u', hu', _, hne⟩
                cases hu.symm.trans hu'
                exact hne hempty
              · exact iff_of_false (not_unchanged_separatedUnit hu hempty)
                  (not_not_intro ⟨u, hu, hfrozen, hempty⟩)

/-- A failed criterion for a unit stays in the clause that the unit has. -/
theorem addCriterion_failure (hwf : s.WellFormed)
    (hrun : (addCriterion i value).run s = .error fault s') :
    s.Unchanged s' ↔ ¬ (Mutation.addCriterion i value).Tears s := by
  cases hu : s.units[i]? with
  | none =>
      rw [run_addCriterion_none hu] at hrun
      cases hrun
      apply iff_of_true s.unchanged_refl
      rintro ⟨u, c, hu', _⟩
      cases hu.symm.trans hu'
  | some u =>
      obtain ⟨written, hwritten⟩ := (hwf.units i u hu).written
      cases hfrozen : u.frozen with
      | true =>
          rw [run_addCriterion_frozen hu hfrozen] at hrun
          cases hrun
          apply iff_of_true s.unchanged_refl
          rintro ⟨u', c, hu', hfrozen', _⟩
          cases hu.symm.trans hu'
          cases hfrozen.symm.trans hfrozen'
      | false =>
          cases hc : u.clause with
          | none =>
              cases hread : value.readCriterion with
              | ok criterion =>
                  rw [run_addCriterion_open hu hfrozen hc hread hwritten] at hrun
                  cases hrun
              | error refusal =>
                  rw [run_addCriterion_error_open hu hfrozen hc hread] at hrun
                  cases hrun
                  apply iff_of_true s.unchanged_refl
                  rintro ⟨u', c, hu', _, hc'⟩
                  cases hu.symm.trans hu'
                  cases hc.symm.trans hc'
          | some c =>
              obtain ⟨g, hg, hflag⟩ := (hwf.units i u hu).clause c hc
              have hgfrozen : g.frozen = false := hflag.trans hfrozen
              cases hread : value.readCriterion with
              | ok criterion =>
                  rw [run_addCriterion_extend hu hfrozen hc hg hgfrozen hread hwritten] at hrun
                  cases hrun
              | error refusal =>
                  rw [run_addCriterion_error_extend hu hfrozen hc hg hgfrozen hread] at hrun
                  cases hrun
                  exact iff_of_false (not_unchanged_setGroup hg)
                    (not_not_intro ⟨u, c, hu, hfrozen, hc⟩)

/-- A command that is no sub-command is always kept: it is frozen, or taken as it is. -/
theorem entry_ok (hwf : s.WellFormed) (hvalue : s.Holds value)
    (hkind : ∀ form fields, value ≠ .record (.subCommand form) fields) :
    ∃ kept s', (entry value).run s = .ok kept s' := by
  cases value with
  | builder ref =>
      cases ref with
      | unit i =>
          have hhas : s.Has (.unit i) := hvalue
          obtain ⟨ref', s', hrun, _⟩ := freezeOf_view hwf hhas fun _ h => by cases h
          exact ⟨_, s', hrun⟩
      | _ => exact ⟨_, s, rfl⟩
  | record form fields =>
      cases form with
      | subCommand form => exact absurd rfl (hkind form fields)
      | _ => exact ⟨_, s, rfl⟩
  | _ => exact ⟨_, s, rfl⟩

/-- A sub-command that can be written is kept as a unit. -/
theorem entry_subCommand {form : SubCommandForm} {fields : List Value} {kept : Value}
    (hrun : (entry (.record (.subCommand form) fields)).run s = .ok kept s') :
    ∃ j, kept = .builder (.unit j) := by
  simp only [entry] at hrun
  cases hunit : (unitOf (.record (.subCommand form) fields)).run s with
  | error fault s₁ =>
      rw [run_bind_error hunit] at hrun
      cases hrun
  | ok i s₁ =>
      rw [run_bind_ok hunit] at hrun
      cases hfreeze : (freezeUnit i).run s₁ with
      | error fault s₂ =>
          rw [run_bind_error hfreeze] at hrun
          cases hrun
      | ok j s₂ =>
          rw [run_bind_ok hfreeze] at hrun
          cases hrun
          exact ⟨j, rfl⟩

/-- A failed command leaves a separator behind those that a batch has, unless it is a sub-command, which
is refused before the batch is looked at. -/
theorem append_failure (hwf : s.WellFormed) (hbatch : s.Has (.batch i)) (hvalue : s.Holds value)
    (hrun : (append i value).run s = .error fault s') :
    s.Unchanged s' ↔ ¬ (Mutation.append i value).Tears s := by
  have hentry : Runs (fun _ => False) False [] (entry value) s fun kept s' =>
      Kept s value kept s' := entry_runs hwf hvalue
  unfold Runs at hentry
  cases hkeep : (entry value).run s with
  | error fault' s₁ =>
      simp only [hkeep] at hentry
      simp only [append] at hrun
      rw [run_bind_error hkeep] at hrun
      cases hrun
      apply iff_of_true (hentry.1.unchanged hwf)
      rintro ⟨_, hkind⟩
      obtain ⟨kept, s₂, hok⟩ := entry_ok hwf hvalue hkind
      cases hkeep.symm.trans hok
  | ok kept s₁ =>
      simp only [hkeep] at hentry
      obtain ⟨hleads, _, hkept⟩ := hentry
      have hsame : s₁.batches[i]? = s.batches[i]? := hleads.frame (.batch i) hbatch not_false
      obtain ⟨b, hb⟩ : ∃ b, s.batches[i]? = some b := ⟨_, List.getElem?_eq_getElem hbatch⟩
      have hb₁ := hsame.trans hb
      have hsep := separate_leads (fun ref => ref = .batch i) hleads.wellFormed hb₁ rfl
      have htext := hsep.grows.commandText_eq hkept.cited
      cases hread : kept.commandText s₁.texts with
      | ok text =>
          rw [run_append_ok hkeep hb₁ (htext.trans hread)] at hrun
          cases hrun
      | error refusal =>
          rw [run_append_error hkeep hb₁ (htext.trans hread)] at hrun
          cases hrun
          by_cases hempty : b.commands = []
          · have hself : b.separated = b := by simp [Batch.separated, hempty]
            rw [hself, Store.setBatch_self hb₁]
            apply iff_of_true (hleads.unchanged hwf)
            rintro ⟨⟨b', hb', hne⟩, _⟩
            cases hb.symm.trans hb'
            exact hne hempty
          · -- A sub-command that was kept is a unit, and units can always be written.
            have hkind (form : SubCommandForm) (fields : List Value) :
                value ≠ .record (.subCommand form) fields := by
              rintro rfl
              obtain ⟨j, rfl⟩ := entry_subCommand hkeep
              cases hread
            exact iff_of_false (not_unchanged_separatedBatch hb hb₁ hempty)
              (not_not_intro ⟨⟨b, hb, hempty⟩, hkind⟩)

end Building

namespace Mutation

/-- In every state that a script leads to, a change of a builder that fails for an argument that the
state can give leaves all builders as they look and as they are written, exactly if it writes nothing
before it can be refused. -/
theorem failed_unchanged_iff (script : List Step) (m : Mutation) {fault : Fault} {s' : Store}
    (htarget : (Session.start.after script).store.Has m.target)
    (hvalue : (Session.start.after script).store.Holds m.value)
    (hrun : m.perform.run (Session.start.after script).store = .error fault s') :
    (Session.start.after script).store.Unchanged s' ↔
      ¬ m.Tears (Session.start.after script).store := by
  have hwf := (Session.after_wellFormed Session.wellFormed_start script).store
  cases m with
  | add i value => exact Building.add_failure hrun
  | addCriterion i value => exact Building.addCriterion_failure hwf hrun
  | addCommand i value => exact Building.addCommand_failure hrun
  | append i value => exact Building.append_failure hwf htarget hvalue hrun

/-- A group of one criterion, and a unit of another without sub-commands. -/
def refusalScript : List Step :=
  [.assign "group" (.group [.record (.criterion .floating) []] false),
    .assign "unit" (.unit [(.criterion, .record (.criterion .tiling) [])] false)]

/-- A criterion is no sub-command, and the unit that refuses it as its first one shows nothing of it. -/
theorem refusalScript_unit_unchanged : ∃ fault s',
    (perform (.addCommand 0 (.record (.criterion .floating) []))).run
      (Session.start.after refusalScript).store = .error fault s' ∧
    (Session.start.after refusalScript).store.Unchanged s' := by
  refine ⟨_, _, rfl, (failed_unchanged_iff refusalScript
    (.addCommand 0 (.record (.criterion .floating) [])) ?_ ?_ rfl).mpr ?_⟩
  · exact Nat.zero_lt_one
  · trivial
  · rintro ⟨u, hu, _, hcommands⟩
    cases hu
    exact hcommands rfl

/-- A sub-command is no criterion, but the group that refuses it has it, and can be written no more. -/
theorem refusalScript_group_torn : ∃ fault s',
    (perform (.add 0 (.record (.subCommand .kill) []))).run
      (Session.start.after refusalScript).store = .error fault s' ∧
    s'.view (.group 0) = some ⟨"[floating]",
      [.record (.criterion .floating) [], .record (.subCommand .kill) []], [], false⟩ ∧
    ((Session.start.after refusalScript).store.view (.group 0)).map View.criteria =
      some [.record (.criterion .floating) []] ∧
    (Session.start.after refusalScript).store.rendered (.group 0) = some (.ok "[floating]") ∧
    ∃ refusal, s'.rendered (.group 0) = some (.error refusal) :=
  ⟨_, _, rfl, rfl, rfl, rfl, _, rfl⟩

end Mutation

end SwayControl
