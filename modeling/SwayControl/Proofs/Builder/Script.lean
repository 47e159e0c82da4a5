import SwayControl.Proofs.Builder.Step

/-!
Scripts. One step from a well-formed session leads to a well-formed session and changes what the
operation of the step concerns; a step that is accepted and edits no clause directly keeps the store in
step and adds its history. Runs of steps follow by induction on the script.
-/

namespace SwayControl

namespace Session

open Building

/-- The session after a script, failed steps included. -/
def after (σ : Session) (script : List Step) : Session :=
  script.foldl (fun τ step => (τ.run step).2) σ

/-- Whether every step of a script, in the session where it is run, has a property. -/
def Along (P : Session → Step → Prop) : Session → List Step → Prop
  | _, [] => True
  | σ, step :: rest => P σ step ∧ Along P (σ.run step).2 rest

/-- Whether a step takes its arguments: it may fail, but not because a value is of another kind than its
place takes. Steps of well-typed scripts are accepted. -/
def Accepts (σ : Session) (step : Step) : Prop :=
  ∀ refusal, (σ.run step).1 ≠ .error (.refused refusal)

/-- The builder that a step changes in place. -/
def mutated (σ : Session) : Step → Option Ref
  | .call on operation _ => operation.mutated (σ.value on)
  | _ => none

/-- The builders that a step may change. -/
def Touches (σ : Session) (step : Step) (ref : Ref) : Prop :=
  ∃ o, σ.mutated step = some o ∧ σ.store.Concerns o ref

/-- Whether a step adds a criterion to the clause of a unit directly, that is, past the unit. -/
def EditsClause (σ : Session) (step : Step) : Prop :=
  ∃ i, σ.mutated step = some (.group i) ∧ ¬ σ.store.Loose i ∧
    ∃ answer, (σ.run step).1 = .ok answer

/-- Whether a step is accepted and edits no clause past its unit. -/
def Orderly (σ : Session) (step : Step) : Prop := σ.Accepts step ∧ ¬ σ.EditsClause step

/-- Which commands a step puts into batches. -/
def history (σ : Session) : Step → History
  | .assign _ value => value.history σ.slots σ.store
  | .coerce _ value => value.history σ.slots σ.store
  | .call on operation _ => operation.history σ.slots (σ.value on) σ.store
  | .compare a b =>
    a.history σ.slots σ.store ++ following (a.build σ.slots) σ.store fun _ s => b.history σ.slots s
  | .distinct values => Expression.historyAll σ.slots values σ.store
  | .walk .. => []
  | .observe _ => []

/-- Which commands a script puts into batches. -/
def historyAlong : Session → List Step → History
  | _, [] => []
  | σ, step :: rest => σ.history step ++ historyAlong (σ.run step).2 rest

/-- The invariant of a session: its store is well formed and holds what the slots hold. -/
structure WellFormed (σ : Session) : Prop where
  store : σ.store.WellFormed
  slots : σ.store.HoldsEach σ.slots

/-- What holds along a script holds along every part of it from the start. -/
theorem Along.before {P : Session → Step → Prop} {before script : List Step} {σ : Session}
    (h : Along P σ script) (hbefore : before <+: script) : Along P σ before := by
  induction before generalizing σ script with
  | nil => trivial
  | cons step rest ih =>
      obtain ⟨later, rfl⟩ := hbefore
      exact ⟨h.1, ih h.2 (List.prefix_append rest later)⟩

theorem Along.and {P Q : Session → Step → Prop} {script : List Step} {σ : Session}
    (h : Along P σ script) (h' : Along Q σ script) :
    Along (fun τ step => P τ step ∧ Q τ step) σ script := by
  induction script generalizing σ with
  | nil => trivial
  | cons step rest ih => exact ⟨⟨h.1, h'.1⟩, ih h.2 h'.2⟩

theorem Along.imp {P Q : Session → Step → Prop} (himp : ∀ τ step, P τ step → Q τ step)
    {script : List Step} {σ : Session} (h : Along P σ script) : Along Q σ script := by
  induction script generalizing σ with
  | nil => trivial
  | cons step rest ih => exact ⟨himp σ step h.1, ih h.2⟩

theorem after_append (σ : Session) (before later : List Step) :
    σ.after (before ++ later) = (σ.after before).after later := List.foldl_append

/-- What holds along a script holds along every part of it to the end. -/
theorem Along.behind {P : Session → Step → Prop} {before later : List Step} {σ : Session}
    (h : Along P σ (before ++ later)) : Along P (σ.after before) later := by
  induction before generalizing σ with
  | nil => exact h
  | cons step rest ih => exact ih h.2

theorem wellFormed_start : start.WellFormed :=
  ⟨Store.wellFormed_empty, fun _ hpair => by cases hpair⟩

variable {σ : Session} {step : Step}

theorem WellFormed.holds_value (h : σ.WellFormed) (name : String) :
    σ.store.Holds (σ.value name) :=
  h.slots.lookup_getD trivial

/-- Evaluating a list of expressions one by one. -/
theorem mapM_build (slots : Slots) (values : List Expression) :
    values.mapM (fun value => value.build slots) = Expression.buildAll slots values := by
  induction values with
  | nil => simp only [List.mapM_nil, Expression.buildAll]
  | cons value rest ih => simp only [List.mapM_cons, Expression.buildAll, ih]

/-- What the operation of a step guarantees. -/
theorem action_runs (h : σ.WellFormed) (step : Step) :
    Runs (σ.Touches step) (∃ i, σ.mutated step = some (.group i) ∧ ¬ σ.store.Loose i)
      (σ.history step) (σ.action step) σ.store fun a s => s.HoldsAnswer a := by
  cases step with
  | assign into value =>
      refine Runs.map ((value.build_runs σ.slots σ.store h.store h.slots).mono (fun _ _ ht => ht)
        False.elim fun _ _ _ hv => hv) fun _ _ _ hv => hv
  | coerce into value =>
      apply Runs.bind_quiet (value.build_runs σ.slots σ.store h.store h.slots)
      intro v s _ hleads hv
      exact Runs.bind_pure ((entry_runs hleads.wellFormed hv).mono (fun _ _ ht => ht) False.elim
        fun _ _ _ hkept => hkept) fun _ _ _ hkept => hkept.holds
  | call on operation into => exact perform_runs h.store h.slots (h.holds_value on) operation
  | walk on into path =>
      exact (reads_walk h.store.inherits path _ (h.holds_value on)).answers h.store fun _ hv => hv
  | compare a b =>
      apply Runs.bind (a.build_runs σ.slots σ.store h.store h.slots)
      intro v s _ hleads _
      refine Runs.bind_quiet (b.build_runs σ.slots s hleads.wellFormed
        (hleads.grows.holdsEach h.slots)) ?_
      intro w s' _ hleads' _
      exact (reads_get.runs hleads'.wellFormed).bind_pure fun _ _ _ _ => trivial
  | distinct values =>
      simp only [action, mapM_build]
      apply Runs.bind_quiet (Expression.buildAll_runs σ.slots values σ.store h.store h.slots)
      intro vs s _ hleads _
      exact ((reads_countDistinct vs).runs hleads.wellFormed).bind_pure fun _ _ _ _ => trivial
  | observe on => exact Runs.pure h.store trivial

/-- A step whose operation answers leaves the store of the operation, and puts the answer into a slot
if it is a value and the step names one. -/
theorem run_of_ok {answer : Answer} {s : Store}
    (hrun : (σ.action step).run σ.store = .ok answer s) :
    (σ.run step).1 = .ok answer ∧ (σ.run step).2.store = s ∧
      ((σ.run step).2.slots = σ.slots ∨ ∃ v name, answer = .value v ∧
        (σ.run step).2.slots = (name, v) :: σ.slots.filter fun slot => slot.1 != name) := by
  unfold run
  simp only [hrun]
  split
  · rename_i v name _
    exact ⟨rfl, rfl, Or.inr ⟨v, name, rfl, rfl⟩⟩
  · exact ⟨rfl, rfl, Or.inl rfl⟩

/-- A step that makes a value has it in its slot. -/
theorem run_assign_of_ok (name : String) {e : Expression} {v : Value} {s : Store}
    (hbuild : (e.build σ.slots).run σ.store = .ok v s) :
    σ.run (.assign name e) = (.ok (.value v), Session.put ⟨s, σ.slots⟩ name v) := by
  have hrun : (σ.action (.assign name e)).run σ.store = .ok (.value v) s := by
    simp only [action]
    rw [run_map_ok hbuild]
  unfold run
  simp only [hrun, target]

theorem value_put (σ : Session) (name : String) (v : Value) : (σ.put name v).value name = v := by
  simp only [value, put, List.lookup_cons_self, Option.getD_some]

theorem run_of_error {fault : Fault} {s : Store}
    (hrun : (σ.action step).run σ.store = .error fault s) :
    σ.run step = (.error fault, ⟨s, σ.slots⟩) := by
  unfold run
  simp only [hrun]

/-- A step that answers is accepted. -/
theorem accepts_of_ok {answer : Answer} (h : (σ.run step).1 = .ok answer) : σ.Accepts step := by
  intro refusal hrefused
  rw [h] at hrefused
  cases hrefused

/-- A step that answers is orderly if the group it adds to, should it add to one, is no clause. -/
theorem orderly_of_ok {answer : Answer} (h : (σ.run step).1 = .ok answer)
    (hloose : ∀ i, σ.mutated step = some (.group i) → σ.store.Loose i) : σ.Orderly step :=
  ⟨accepts_of_ok h, fun ⟨i, hmutated, howned, _⟩ => howned (hloose i hmutated)⟩

/-- One step changes only what its operation concerns, whether it answers or fails. -/
theorem run_leads (h : σ.WellFormed) (step : Step) :
    σ.store.Leads (σ.Touches step) (σ.run step).2.store := by
  have hruns := action_runs h step
  unfold Runs at hruns
  cases hrun : (σ.action step).run σ.store with
  | ok answer s =>
      simp only [hrun] at hruns
      rw [(run_of_ok hrun).2.1]
      exact hruns.1
  | error fault s =>
      simp only [hrun] at hruns
      rw [run_of_error hrun]
      exact hruns.1

/-- The invariant survives every step. -/
theorem run_wellFormed (h : σ.WellFormed) (step : Step) : (σ.run step).2.WellFormed := by
  have hleads := run_leads h step
  refine ⟨hleads.wellFormed, ?_⟩
  have hkept := hleads.grows.holdsEach h.slots
  have hruns := action_runs h step
  unfold Runs at hruns
  cases hrun : (σ.action step).run σ.store with
  | ok answer s =>
      simp only [hrun] at hruns
      obtain ⟨_, hstore, hslots⟩ := run_of_ok hrun
      rcases hslots with hslots | ⟨v, name, rfl, hslots⟩
      · rw [hslots]
        exact hkept
      · rw [hslots]
        intro pair hpair
        rcases List.mem_cons.mp hpair with rfl | hold
        · exact hstore ▸ hruns.2.2
        · exact hkept pair (List.mem_filter.mp hold).1
  | error fault s =>
      rw [run_of_error hrun] at hkept ⊢
      exact hkept

/-- An accepted step that edits no clause directly keeps a store in step, and the entries of batches
grow by its history. -/
theorem run_keeps (h : σ.WellFormed) (hinStep : σ.store.InStep) (haccepts : σ.Accepts step)
    (hclean : ¬ σ.EditsClause step) :
    σ.store.Keeps (σ.history step) (σ.run step).2.store := by
  have hruns := action_runs h step
  unfold Runs at hruns
  cases hrun : (σ.action step).run σ.store with
  | ok answer s =>
      simp only [hrun] at hruns
      obtain ⟨hanswer, hstore, _⟩ := run_of_ok hrun
      rw [hstore]
      refine hruns.2.1 ?_ hinStep
      rintro ⟨i, hmutated, howned⟩
      exact hclean ⟨i, hmutated, howned, answer, hanswer⟩
  | error fault s =>
      simp only [hrun] at hruns
      rw [run_of_error hrun]
      refine hruns.2 ?_ hinStep
      rintro refusal rfl
      exact haccepts refusal (by rw [run_of_error hrun])

/-- Every session that a script leads to is well formed. -/
theorem after_wellFormed (h : σ.WellFormed) (script : List Step) : (σ.after script).WellFormed := by
  induction script generalizing σ with
  | nil => exact h
  | cons step rest ih => exact ih (run_wellFormed h step)

/-- Whatever a script does, the store of the session grows. -/
theorem after_grows (h : σ.WellFormed) (script : List Step) :
    σ.store.Grows (σ.after script).store := by
  induction script generalizing σ with
  | nil => exact Store.Grows.refl _
  | cons step rest ih => exact (run_leads h step).grows.trans (ih (run_wellFormed h step))

/-- A script of accepted steps that edits no clause directly keeps a store in step, and the entries of
batches grow by its history. -/
theorem after_keeps (h : σ.WellFormed) (hinStep : σ.store.InStep) {script : List Step}
    (hscript : Along Orderly σ script) :
    σ.store.Keeps (σ.historyAlong script) (σ.after script).store := by
  induction script generalizing σ with
  | nil => exact Store.Keeps.refl hinStep
  | cons step rest ih =>
      obtain ⟨⟨haccepts, hclean⟩, hrest⟩ := hscript
      have hstep := run_keeps h hinStep haccepts hclean
      exact hstep.trans (ih (run_wellFormed h step) hstep.inStep hrest)

end Session

end SwayControl
