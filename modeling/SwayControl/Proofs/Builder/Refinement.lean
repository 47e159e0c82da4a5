import SwayControl.Proofs.Builder.Script

/-!
Batches against their history. As long as every step is accepted and no clause is edited past its unit,
the text of a batch is the text written from its entries, and both are what the commands that were put
into it were written as, each at the moment it was put in, with semicolons between them.
-/

namespace SwayControl

namespace Store

variable {s : Store}

/-- What a unit is written as: its criteria in brackets if it has a clause, and its sub-commands. -/
theorem InStep.written_unit (h : s.InStep) (hwf : s.WellFormed) {i : Nat} {u : TargetedUnit}
    (hu : s.units[i]? = some u) :
    ∃ clause commands, (Value.builder (.unit i)).written s =
        .ok (clause ++ ",".intercalate commands) ∧
      (u.commands.mapM fun command => SubCommand.render <$> command.readSubCommand) =
        Except.ok commands ∧
      (u.clause = none ∧ clause = "" ∨ ∃ c g criteria, u.clause = some c ∧ s.groups[c]? = some g ∧
        g.criteria.mapM Value.readCriterion = .ok criteria ∧
        clause = "[" ++ " ".intercalate (criteria.map Criterion.render) ++ "]") := by
  obtain ⟨commands, hcommands⟩ := (hwf.units i u hu).written
  have hwritten : (Value.builder (.unit i)).written s = unitText s.texts u.clause u.commands := by
    rw [h.units i u hu]
    simp only [Value.written, Value.commandText, h.scratch_eq hwf, texts, hu, Option.elim_some]
  rw [unitText_of_written hcommands] at hwritten
  refine ⟨_, commands, hwritten, hcommands, ?_⟩
  cases hc : u.clause with
  | none => exact Or.inl ⟨rfl, rfl⟩
  | some c =>
      obtain ⟨g, hg, _⟩ := (hwf.units i u hu).clause c hc
      have htext := h.groups c g hg
      unfold clauseText at htext
      cases hread : g.criteria.mapM Value.readCriterion with
      | error refusal => simp [hread, Functor.map, Except.map] at htext
      | ok criteria =>
          rw [hread] at htext
          refine Or.inr ⟨c, g, criteria, rfl, hg, hread, ?_⟩
          simp only [Option.elim_some, texts, hg]
          exact (Except.ok.inj htext).symm

/-- In a store in step the text of a batch joins the texts of its entries. -/
theorem InStep.batch_text (h : s.InStep) {i : Nat} {b : Batch} (hb : s.batches[i]? = some b) :
    ∃ texts : List String, s.entryTexts i = texts.map Except.ok ∧
      b.text = commandSeparator.intercalate texts := by
  have htext := h.batches i b hb
  simp only [batchText] at htext
  cases hread : b.commands.mapM (Value.commandText s.texts) with
  | error refusal => simp [hread, Functor.map, Except.map] at htext
  | ok texts =>
      rw [hread] at htext
      refine ⟨texts, ?_, (Except.ok.inj htext).symm⟩
      simp only [entryTexts, hb, Option.elim_some]
      exact map_eq_of_mapM_ok hread

end Store

namespace Session

open Building

variable {σ : Session}

/-- Every state that an orderly script leads to is in step. -/
theorem after_inStep {script : List Step} (hscript : Along Orderly start script) :
    (start.after script).store.InStep :=
  (after_keeps wellFormed_start Store.inStep_empty hscript).inStep

/-- The entries of a batch are written as the commands that were put into it were when they were. -/
theorem entryTexts_after {script : List Step} (hscript : Along Orderly start script) (i : Nat) :
    (start.after script).store.entryTexts i = (start.historyAlong script).of i := by
  have hempty : start.store.entryTexts i = [] := by
    simp [Store.entryTexts, start, Store.empty]
  rw [(after_keeps wellFormed_start Store.inStep_empty hscript).entries, hempty, List.nil_append]

/-- Making a binding or a rule in a step: its fields are built, then the record is made of them. -/
theorem run_assign_record (σ : Session) {name : String} {f : TopLevelForm}
    {given : List (String × Expression)} {values : List (String × Value)} {s : Store} {v : Value}
    (hgiven : (Expression.buildFields σ.slots given).run σ.store = .ok values s)
    (hanswer : (σ.run (.assign name (.record (.topLevel f) given))).1 = .ok (.value v)) :
    (record (.topLevel f) ((Form.topLevel f).complete values)).run s =
      .ok v (σ.run (.assign name (.record (.topLevel f) given))).2.store := by
  cases hrun : (record (.topLevel f) ((Form.topLevel f).complete values)).run s with
  | ok w s' =>
      have haction : (σ.action (.assign name (.record (.topLevel f) given))).run σ.store =
          .ok (.value w) s' := by
        simp only [action, Expression.build]
        rw [run_map_ok]
        rw [run_bind_ok hgiven, hrun]
      obtain ⟨hanswer', hstore, _⟩ := run_of_ok haction
      rw [hanswer'] at hanswer
      cases hanswer
      rw [hstore]
  | error fault s' =>
      have haction : (σ.action (.assign name (.record (.topLevel f) given))).run σ.store =
          .error fault s' := by
        simp only [action, Expression.build]
        rw [run_map_error]
        rw [run_bind_ok hgiven, hrun]
      rw [run_of_error haction] at hanswer
      cases hanswer

/-- The store at which the fields of a record are built is well formed, in step, and holds them. -/
theorem buildFields_inStep (h : σ.WellFormed) (hinStep : σ.store.InStep)
    {given : List (String × Expression)} {values : List (String × Value)} {s : Store}
    (hgiven : (Expression.buildFields σ.slots given).run σ.store = .ok values s) :
    s.WellFormed ∧ s.InStep ∧ s.HoldsEach values := by
  have hruns : Runs (fun _ => False) False _ (Expression.buildFields σ.slots given) σ.store _ :=
    Expression.buildFields_runs σ.slots given σ.store h.store h.slots
  simp only [Runs, hgiven] at hruns
  exact ⟨hruns.1.wellFormed, (hruns.2.1 not_false hinStep).inStep, hruns.2.2⟩

/-- In every state that an orderly script leads to: each batch has the text that its history and its
entries make, and keeps that text and those entries in front whatever comes later; each unit is written
from its criteria and sub-commands; and each binding or rule that is made, by a step of its own or while
a step evaluates its arguments, is written, then and later, with what its criteria and its command were
written as when they were given to it. -/
theorem batches_refine_renderings {script : List Step} (hscript : Along Orderly start script) :
    (∀ (i : Nat) b, (start.after script).store.batches[i]? = some b →
      (∃ texts : List String, (start.historyAlong script).of i = texts.map Except.ok ∧
        b.text = ";".intercalate texts) ∧
      batchText (start.after script).store.texts b.commands = .ok b.text ∧
      ∀ later, ∃ b', ((start.after script).after later).store.batches[i]? = some b' ∧
        b.commands <+: b'.commands ∧ ∃ rest, b'.text = b.text ++ rest) ∧
    (∀ (i : Nat) u, (start.after script).store.units[i]? = some u → ∃ clause commands,
      (Value.builder (.unit i)).written (start.after script).store =
        .ok (clause ++ ",".intercalate commands) ∧
      (u.commands.mapM fun command => SubCommand.render <$> command.readSubCommand) =
        Except.ok commands ∧
      (u.clause = none ∧ clause = "" ∨ ∃ c g criteria, u.clause = some c ∧
        (start.after script).store.groups[c]? = some g ∧
        g.criteria.mapM Value.readCriterion = .ok criteria ∧
        clause = "[" ++ " ".intercalate (criteria.map Criterion.render) ++ "]")) ∧
    (∀ name f given values s v later,
      (Expression.buildFields (start.after script).slots given).run (start.after script).store =
        .ok values s →
      ((start.after script).run (.assign name (.record (.topLevel f) given))).1 = .ok (.value v) →
      Along Orderly ((start.after script).run (.assign name (.record (.topLevel f) given))).2 later →
      v.written (((start.after script).run
          (.assign name (.record (.topLevel f) given))).2.after later).store =
        TopLevel.render <$> Value.readTopLevelFields s.scratch
          ((f.commandOf ((Form.topLevel f).complete values)).written s) f
          ((Form.topLevel f).complete values)) ∧
    (∀ s f fields v s' s'', (start.after script).store.Leads (fun _ => False) s → s.InStep →
      s.HoldsAll fields → fields.length = (Form.topLevel f).signature.fields.length →
      (record (.topLevel f) fields).run s = .ok v s' →
      s'.Grows s'' → s''.WellFormed → s''.InStep →
      v.written s'' = TopLevel.render <$>
        Value.readTopLevelFields s.scratch ((f.commandOf fields).written s) f fields) := by
  have hwf := after_wellFormed wellFormed_start script
  have hinStep := after_inStep hscript
  refine ⟨fun i b hb => ⟨?_, hinStep.batches i b hb, fun later => ?_⟩, fun i u hu =>
    hinStep.written_unit hwf.store hu, fun name f given values s v later hgiven hanswer hlater => ?_,
    fun s f fields v s' s'' hleads hinStep₁ hfields hlength hrun hgrows hwf'' hinStep'' =>
      record_written hleads.wellFormed hinStep₁ hfields hlength hrun hgrows hwf'' hinStep''⟩
  · obtain ⟨texts, htexts, hjoin⟩ := hinStep.batch_text hb
    exact ⟨texts, by rw [← entryTexts_after hscript, htexts], hjoin⟩
  · obtain ⟨b', hb', hgrows⟩ := (after_grows hwf later).batches i b hb
    exact ⟨b', hb', hgrows.commands, hgrows.text⟩
  · obtain ⟨hwf₁, hinStep₁, hvalues⟩ := buildFields_inStep hwf hinStep hgiven
    have hstep := run_wellFormed hwf (.assign name (.record (.topLevel f) given))
    have hkeeps := run_keeps hwf hinStep (accepts_of_ok hanswer)
      (by rintro ⟨_, hmutated, _⟩; cases hmutated)
    have hafter := after_keeps hstep hkeeps.inStep hlater
    exact record_written hwf₁ hinStep₁ (Store.holdsAll_complete _ hvalues)
      (Form.length_complete _ _) (run_assign_record _ hgiven hanswer) (after_grows hstep later)
      (after_wellFormed hstep later).store hafter.inStep

/-- A unit is put into a batch, changed and put in again; a rule is made of a group and the unit before
both are changed, and put in afterwards. -/
def snapshotScript : List Step :=
  [.assign "unit" (.unit [(.criterion, .record (.criterion .floating) []),
      (.command, .record (.subCommand .kill) [])] false),
    .assign "group" (.group [.record (.criterion .tiling) []] false),
    .assign "rule" (.record (.topLevel .forWindow)
      [("criteria", .slot "group"), ("command", .slot "unit")]),
    .assign "batch" (.batch [.slot "unit"]),
    .call "unit" (.addCommand (.record (.subCommand .exit) [])) none,
    .call "group" (.add (.record (.criterion .floating) [])) none,
    .call "batch" (.append (.slot "unit")) none,
    .call "batch" (.append (.slot "rule")) none]

theorem snapshotScript_orderly : Along Orderly start snapshotScript := by
  refine ⟨orderly_of_ok rfl ?_, orderly_of_ok rfl ?_, orderly_of_ok rfl ?_, orderly_of_ok rfl ?_,
    orderly_of_ok rfl ?_, orderly_of_ok rfl ?_, orderly_of_ok rfl ?_, orderly_of_ok rfl ?_, trivial⟩
  all_goals rintro i ⟨⟩
  -- The group stands for itself: the one clause there is belongs to a unit.
  exact Store.loose_iff.mpr (by decide)

/-- Each entry keeps the text of its moment: the unit without and with its later sub-command, and the
rule with the criteria and the unit that it was made of. -/
theorem snapshotScript_batch_refines :
    Along Orderly start snapshotScript ∧ ∃ texts : List String,
      (start.historyAlong snapshotScript).of 0 = texts.map Except.ok ∧
      "[floating]kill;[floating]kill,exit;for_window [tiling] [floating]kill" =
        ";".intercalate texts :=
  ⟨snapshotScript_orderly, ((batches_refine_renderings snapshotScript_orderly).1 0 _ rfl).1⟩

end Session

end SwayControl
