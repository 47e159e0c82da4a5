import SwayControl.Proofs.Builder.Query

/-!
Steps of a script. A step changes in place at most one builder that is there already, and with a unit its
clause. The one step that can put a unit out of step with its text, other than by failing, is a criterion
added to the clause of a unit directly.
-/

namespace SwayControl

/-- The builder that an operation on a value changes in place. -/
def Operation.mutated : Operation → Value → Option Ref
  | .add _, .builder (.group i) => some (.group i)
  | .addCriterion _, .builder (.unit i) => some (.unit i)
  | .addCommand _, .builder (.unit i) => some (.unit i)
  | .append _, .builder (.batch i) => some (.batch i)
  | _, _ => none

/-- Which commands are put into batches while an operation is performed on a value. -/
def Operation.history (slots : Slots) (value : Value) (s : Store) : Operation → History
  | .add criterion =>
    match value with
    | .builder (.group _) => criterion.history slots s
    | _ => []
  | .addCriterion criterion =>
    match value with
    | .builder (.unit _) => criterion.history slots s
    | _ => []
  | .addCommand command =>
    match value with
    | .builder (.unit _) => command.history slots s
    | _ => []
  | .append command =>
    match value with
    | .builder (.batch i) =>
      command.history slots s ++ Building.following (command.build slots) s fun v s' =>
        Building.following (Building.append i v) s' fun _ _ => [(i, v.written s')]
    | _ => []
  | _ => []

/-- Whether a builder is a unit and another one the group that is its clause. -/
def Store.Owns (s : Store) (owner ref : Ref) : Prop :=
  ∃ (i : Nat) (u : TargetedUnit) (c : Nat), owner = .unit i ∧ s.units[i]? = some u ∧
    u.clause = some c ∧ ref = .group c

/-- What changes when a builder is changed in place: the builder, and with a unit its clause. -/
def Store.Concerns (s : Store) (changed ref : Ref) : Prop := ref = changed ∨ s.Owns changed ref

theorem Store.concerns_self (s : Store) (ref : Ref) : s.Concerns ref ref := Or.inl rfl

/-- The builders that an operation on a value may change. -/
def Operation.Targets (op : Operation) (s : Store) (value : Value) (ref : Ref) : Prop :=
  ∃ o, op.mutated value = some o ∧ s.Concerns o ref

/-- Whether an operation on a value adds to the clause of a unit past that unit. -/
def Operation.Direct (op : Operation) (s : Store) (value : Value) : Prop :=
  ∃ i, op.mutated value = some (.group i) ∧ ¬ s.Loose i

/-- Whether an answer is held by the store. -/
def Store.HoldsAnswer (s : Store) : Answer → Prop
  | .value v => s.Holds v
  | .bytes _ => True

namespace Building

variable {α β : Type} {target : Ref → Prop} {direct : Prop} {s : Store} {x : Building α}
  {post : α → Store → Prop} {h : History} {slots : Slots} {value : Value}

/-- What an operation without targets leaves, whatever the targets of what follows. -/
theorem Runs.untargeted (hx : Runs (fun _ => False) direct h x s post) :
    Runs target direct h x s fun a s' => post a s' ∧ s.Leads (fun _ => False) s' :=
  (hx.imp fun _ _ hleads ha => And.intro ha hleads).mono (fun _ _ ht => ht.elim) (fun hd => hd)
    fun _ _ _ ha => ha

/-- Turning the answer of an operation into another changes nothing else. -/
theorem Runs.bind_pure {f : α → β} {post' : β → Store → Prop}
    (hx : Runs target direct h x s post)
    (hpost : ∀ a s', s.Leads target s' → post a s' → post' (f a) s') :
    Runs target direct h (x >>= fun a => Pure.pure (f a)) s post' := by
  refine Ends.bind hx ?_ fun _ _ _ hfault => hfault
  rintro a s' - ⟨hleads, hkeeps, ha⟩
  exact ⟨hleads, hkeeps, hpost a s' hleads ha⟩

theorem Runs.map {f : α → β} {post' : β → Store → Prop} (hx : Runs target direct h x s post)
    (hpost : ∀ a s', s.Leads target s' → post a s' → post' (f a) s') :
    Runs target direct h (f <$> x) s post' := by
  rw [map_eq_pure_bind]
  exact hx.bind_pure hpost

/-- Only a group that was nobody's clause can be added to directly without harm. -/
theorem perform_add_runs (hwf : s.WellFormed) (hslots : s.HoldsEach slots) {i : Nat}
    (hgroup : s.Has (.group i)) (criterion : Expression) :
    Runs (s.Concerns (.group i)) (¬ s.Loose i) (criterion.history slots s)
      (perform slots (.builder (.group i)) (.add criterion)) s fun a s' => s'.HoldsAnswer a := by
  simp only [perform]
  apply Runs.bind_quiet (criterion.build_runs slots s hwf hslots).untargeted
  rintro v s' _ hleads ⟨hv, hbuild⟩
  refine Runs.bind_pure ?_ fun _ s'' hadd (_ : s''.units = s'.units) =>
    hadd.grows.has (hbuild.grows.has hgroup)
  refine (addToGroup_runs hleads.wellFormed hv (Or.inl rfl)).mono (fun _ _ ht => ht) ?_
    fun _ _ _ hunits => hunits
  exact mt fun hloose => hbuild.loose i hgroup not_false hloose

theorem perform_addCriterion_runs (hwf : s.WellFormed) (hslots : s.HoldsEach slots) {i : Nat}
    (hunit : s.Has (.unit i)) (criterion : Expression) :
    Runs (s.Concerns (.unit i)) direct (criterion.history slots s)
      (perform slots (.builder (.unit i)) (.addCriterion criterion)) s
      fun a s' => s'.HoldsAnswer a := by
  simp only [perform]
  apply Runs.bind_quiet (criterion.build_runs slots s hwf hslots).untargeted
  rintro v s' _ hleads ⟨hv, hbuild⟩
  -- Evaluating the criterion did not touch the unit, so its clause is the one it had before.
  have hsame : s'.units[i]? = s.units[i]? := hbuild.frame (.unit i) hunit not_false
  refine Runs.bind_pure ?_ fun _ s'' hadd (_ : True) => hadd.grows.has (hbuild.grows.has hunit)
  refine (addCriterion_runs hleads.wellFormed hv (s.concerns_self (.unit i))
    fun u c hu hc => Or.inr ⟨i, u, c, rfl, hsame ▸ hu, hc, rfl⟩).mono (fun _ _ ht => ht)
    False.elim fun _ _ _ _ => trivial

theorem perform_addCommand_runs (hwf : s.WellFormed) (hslots : s.HoldsEach slots) {i : Nat}
    (hunit : s.Has (.unit i)) (command : Expression) :
    Runs (s.Concerns (.unit i)) direct (command.history slots s)
      (perform slots (.builder (.unit i)) (.addCommand command)) s
      fun a s' => s'.HoldsAnswer a := by
  simp only [perform]
  apply Runs.bind_quiet (command.build_runs slots s hwf hslots).untargeted
  rintro v s' _ hleads ⟨hv, hbuild⟩
  refine Runs.bind_pure ?_ fun _ s'' hadd (_ : True) => hadd.grows.has (hbuild.grows.has hunit)
  exact (addCommand_runs hleads.wellFormed hv (s.concerns_self (.unit i))).mono
    (fun _ _ ht => ht) False.elim fun _ _ _ _ => trivial

theorem perform_append_runs (hwf : s.WellFormed) (hslots : s.HoldsEach slots) {i : Nat}
    (hbatch : s.Has (.batch i)) (command : Expression) :
    Runs (s.Concerns (.batch i)) direct
      (Operation.history slots (.builder (.batch i)) s (.append command))
      (perform slots (.builder (.batch i)) (.append command)) s fun a s' => s'.HoldsAnswer a := by
  simp only [perform, Operation.history]
  apply Runs.bind (command.build_runs slots s hwf hslots).untargeted
  rintro v s' _ hleads ⟨hv, hbuild⟩
  refine Runs.bind_pure ?_ fun _ s'' hadd (_ : True) => hadd.grows.has (hbuild.grows.has hbatch)
  exact (append_runs hleads.wellFormed hv (s.concerns_self (.batch i))).mono
    (fun _ _ ht => ht) False.elim fun _ _ _ _ => trivial

theorem copyOf_runs (hwf : s.WellFormed) :
    Runs target direct [] (copyOf value) s fun v s' => s'.Holds v := by
  unfold copyOf
  split
  · exact Runs.bind_pure ((copyGroup_runs hwf).mono (fun _ _ ht => ht) False.elim fun _ _ _ h => h)
      fun _ _ _ h => h
  · exact Runs.bind_pure ((copyUnit_runs hwf).mono (fun _ _ ht => ht) False.elim fun _ _ _ h => h)
      fun _ _ _ h => h
  · exact Runs.of_untouched hwf (run_refuse _)

theorem freezeOf_runs (hwf : s.WellFormed) :
    Runs target direct [] (freezeOf value) s fun v s' => s'.Holds v := by
  unfold freezeOf
  split
  · exact Runs.bind_pure ((freezeGroup_runs hwf).mono (fun _ _ ht => ht) False.elim
      fun _ _ _ h => h) fun _ _ _ h => h.1.has
  · exact Runs.bind_pure ((freezeUnit_runs hwf).mono (fun _ _ ht => ht) False.elim
      fun _ _ _ h => h) fun _ _ _ h => h.1.has
  · exact Runs.of_untouched hwf (run_refuse _)

/-- A query answers with something that the store holds. -/
theorem Reads.answers {x : Building α} {post : α → Prop} (hx : Reads x s post) (hwf : s.WellFormed)
    {f : α → Answer} (hf : ∀ a, post a → s.HoldsAnswer (f a)) :
    Runs target direct [] (f <$> x) s fun a s' => s'.HoldsAnswer a :=
  (hx.runs hwf).map fun a _ _ h => by
    obtain ⟨rfl, ha⟩ := h
    exact hf a ha

/-- What an operation changes in place, what it keeps, and what it answers. -/
theorem perform_runs (hwf : s.WellFormed) (hslots : s.HoldsEach slots) (hvalue : s.Holds value)
    (op : Operation) :
    Runs (op.Targets s value) (op.Direct s value) (op.history slots value s)
      (perform slots value op) s fun a s' => s'.HoldsAnswer a := by
  -- A value of another kind is refused before anything happens.
  cases op with
  | add criterion =>
      cases value with
      | builder ref =>
          cases ref with
          | group i =>
              exact (perform_add_runs hwf hslots hvalue criterion).mono
                (fun _ _ ht => ⟨_, rfl, ht⟩) (fun hd => ⟨i, rfl, hd⟩) fun _ _ _ ha => ha
          | _ => exact Runs.of_untouched hwf rfl
      | _ => exact Runs.of_untouched hwf rfl
  | addCriterion criterion =>
      cases value with
      | builder ref =>
          cases ref with
          | unit i =>
              exact (perform_addCriterion_runs hwf hslots hvalue criterion).mono
                (fun _ _ ht => ⟨_, rfl, ht⟩) (fun hd => hd) fun _ _ _ ha => ha
          | _ => exact Runs.of_untouched hwf rfl
      | _ => exact Runs.of_untouched hwf rfl
  | addCommand command =>
      cases value with
      | builder ref =>
          cases ref with
          | unit i =>
              exact (perform_addCommand_runs hwf hslots hvalue command).mono
                (fun _ _ ht => ⟨_, rfl, ht⟩) (fun hd => hd) fun _ _ _ ha => ha
          | _ => exact Runs.of_untouched hwf rfl
      | _ => exact Runs.of_untouched hwf rfl
  | append command =>
      cases value with
      | builder ref =>
          cases ref with
          | batch i =>
              exact (perform_append_runs hwf hslots hvalue command).mono
                (fun _ _ ht => ⟨_, rfl, ht⟩) (fun hd => hd) fun _ _ _ ha => ha
          | _ => exact Runs.of_untouched hwf rfl
      | _ => exact Runs.of_untouched hwf rfl
  | copy => exact (copyOf_runs hwf).map fun _ _ _ ha => ha
  | freeze => exact (freezeOf_runs hwf).map fun _ _ _ ha => ha
  | render => exact reads_writtenBuilder.answers hwf fun _ _ => trivial
  | encode =>
      have hread : Reads (perform slots value .encode) s s.HoldsAnswer := by
        refine (reads_textOf hwf.inherits hvalue).bind fun v _ => ?_
        cases v <;> first | exact Reads.pure trivial | exact reads_refuse _
      apply (hread.runs hwf).imp
      rintro a _ _ ⟨rfl, ha⟩
      exact ha
  | text => exact (reads_textOf hwf.inherits hvalue).answers hwf fun _ ha => ha
  | criteria => exact (reads_property hwf.inherits hvalue "criteria").answers hwf fun _ ha => ha
  | commands => exact (reads_property hwf.inherits hvalue "commands").answers hwf fun _ ha => ha
  | frozen => exact reads_frozenOf.answers hwf fun _ _ => trivial
  | length => exact (reads_lengthOf.runs hwf).bind_pure fun _ _ _ _ => trivial
  | written => exact reads_writtenOf.answers hwf fun _ _ => trivial
  | shown => exact (reads_get.runs hwf).bind_pure fun _ _ _ _ => trivial
  | truth => exact reads_truthOf.answers hwf fun _ _ => trivial
  | entries => exact (reads_commandsOf hwf.inherits hvalue).answers hwf fun _ ha => ha
  | hash => exact (reads_checkSettled.runs hwf).bind_pure fun _ _ _ _ => trivial

end Building

end SwayControl
