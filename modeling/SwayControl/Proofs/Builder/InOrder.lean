import SwayControl.Proofs.Builder.Gathering
import SwayControl.Proofs.Builder.Separator

/-!
Clauses in order. Along a script whose steps answer, the criteria of every group are those that it was
founded with and behind them those that came to it since, by adding to the group itself or through the
unit whose clause it is; and its text is the clause of these, whatever their values hold.
-/

namespace SwayControl

namespace Expression

open Building

mutual

/-- The criteria of the groups that are founded while an expression is evaluated. -/
def founded (slots : Slots) : Expression → Store → List (List Value)
  | .literal _, _ => []
  | .tuple items, s => foundedAll slots items s
  | .record form given, s =>
    foundedFields slots given s ++ behind (buildFields slots given) s fun fields t =>
      t.recordCopies form (form.complete fields)
  | .group criteria frozen, s =>
    foundedAll slots criteria s ++ behind (buildAll slots criteria) s fun values _ =>
      values :: if frozen then [values] else []
  | .unit parts frozen, s =>
    foundedParts slots parts s ++ behind (buildParts slots parts) s fun values _ =>
      unitClauses (criteriaIn values) frozen
  | .batch commands, s =>
    foundedAll slots commands s ++ behind (buildAll slots commands) s fun values t =>
      values.flatMap t.entryCopies
  | .slot _, _ => []

/-- The criteria of the groups that are founded while expressions are evaluated. -/
def foundedAll (slots : Slots) : List Expression → Store → List (List Value)
  | [], _ => []
  | item :: rest, s =>
    founded slots item s ++ behind (build slots item) s fun _ t => foundedAll slots rest t

/-- The criteria of the groups that are founded while named expressions are evaluated. -/
def foundedFields (slots : Slots) : List (String × Expression) → Store → List (List Value)
  | [], _ => []
  | (_, item) :: rest, s =>
    founded slots item s ++ behind (build slots item) s fun _ t => foundedFields slots rest t

/-- The criteria of the groups that are founded while the parts of a unit are evaluated. -/
def foundedParts (slots : Slots) : List (UnitPart × Expression) → Store → List (List Value)
  | [], _ => []
  | (_, item) :: rest, s =>
    founded slots item s ++ behind (build slots item) s fun _ t => foundedParts slots rest t

end

mutual

/-- Evaluating an expression founds the groups that it tells. -/
theorem build_founds (slots : Slots) : ∀ (e : Expression) (s : Store), s.WellFormed →
    s.HoldsEach slots → Founds (e.build slots) s (e.founded slots s)
  | .literal _, _, _, _ => Founds.pure _
  | .slot _, _, _, _ => Founds.pure _
  | .tuple items, s, hwf, hslots => (buildAll_founds slots items s hwf hslots).bind_pure
  | .record form given, s, hwf, hslots =>
      (buildFields_founds slots given s hwf hslots).bind_runs (buildFields_runs slots given s hwf hslots)
        fun _ _ hleads hfields =>
          record_founds hleads.wellFormed form (Store.holdsAll_complete form hfields)
  | .group criteria frozen, s, hwf, hslots =>
      (buildAll_founds slots criteria s hwf hslots).bind_run fun values _ _ =>
        buildGroup_founds values frozen
  | .unit parts frozen, s, hwf, hslots =>
      (buildParts_founds slots parts s hwf hslots).bind_runs (buildParts_runs slots parts s hwf hslots)
        fun _ _ hleads hvalues => buildUnit_founds hleads.wellFormed hvalues frozen
  | .batch commands, s, hwf, hslots =>
      (buildAll_founds slots commands s hwf hslots).bind_runs (buildAll_runs slots commands s hwf hslots)
        fun _ _ hleads hvalues => buildBatch_founds hleads.wellFormed hvalues

theorem buildAll_founds (slots : Slots) : ∀ (items : List Expression) (s : Store), s.WellFormed →
    s.HoldsEach slots → Founds (buildAll slots items) s (foundedAll slots items s)
  | [], _, _, _ => Founds.pure _
  | item :: rest, s, hwf, hslots =>
      (build_founds slots item s hwf hslots).bind_runs (build_runs slots item s hwf hslots)
        fun _ t hleads _ =>
          (buildAll_founds slots rest t hleads.wellFormed (hleads.grows.holdsEach hslots)).bind_pure

theorem buildFields_founds (slots : Slots) : ∀ (given : List (String × Expression)) (s : Store),
    s.WellFormed → s.HoldsEach slots →
      Founds (buildFields slots given) s (foundedFields slots given s)
  | [], _, _, _ => Founds.pure _
  | (_, item) :: rest, s, hwf, hslots =>
      (build_founds slots item s hwf hslots).bind_runs (build_runs slots item s hwf hslots)
        fun _ t hleads _ =>
          (buildFields_founds slots rest t hleads.wellFormed (hleads.grows.holdsEach hslots)).bind_pure

theorem buildParts_founds (slots : Slots) : ∀ (parts : List (UnitPart × Expression)) (s : Store),
    s.WellFormed → s.HoldsEach slots →
      Founds (buildParts slots parts) s (foundedParts slots parts s)
  | [], _, _, _ => Founds.pure _
  | (_, item) :: rest, s, hwf, hslots =>
      (build_founds slots item s hwf hslots).bind_runs (build_runs slots item s hwf hslots)
        fun _ t hleads _ =>
          (buildParts_founds slots rest t hleads.wellFormed (hleads.grows.holdsEach hslots)).bind_pure

end

end Expression

/-- The group that criteria come to through a value: the group itself, or the clause of the unit. -/
def Store.reached (s : Store) : Value → Option Nat
  | .builder (.group i) => some i
  | .builder (.unit i) => (s.units[i]?).bind TargetedUnit.clause
  | _ => none

namespace Operation

open Building

/-- The criteria that an operation on a value adds to the group with an index. -/
def added (slots : Slots) (value : Value) (s : Store) (i : Nat) : Operation → List Value
  | .add criterion | .addCriterion criterion =>
    if s.reached value = some i then behind (criterion.build slots) s fun v _ => [v] else []
  | _ => []

/-- The criteria of the groups that an operation on a value founds. -/
def founded (slots : Slots) (value : Value) (s : Store) : Operation → List (List Value)
  | .add criterion => criterion.founded slots s
  | .addCriterion criterion =>
    criterion.founded slots s ++ behind (criterion.build slots) s fun v _ =>
      if s.reached value = none then [[v]] else []
  | .addCommand command => command.founded slots s
  | .append command =>
    command.founded slots s ++ behind (command.build slots) s fun v t => t.entryCopies v
  | .copy =>
    match value with
    | .builder ref => s.copies ref
    | _ => []
  | .freeze =>
    match value with
    | .builder ref => s.frozenCopies ref
    | _ => []
  | _ => []

end Operation

namespace Building

open Store

variable {s s' : Store} {slots : Slots} {value v : Value} {answer : Answer} {i : Nat}

/-- The criteria of groups before new ones, with what comes to each. -/
def extended (held : List (List Value)) (added : Nat → List Value) : List (List Value) :=
  held.mapIdx fun i criteria => criteria ++ added i

theorem extended_nil (held : List (List Value)) : extended held (fun _ => []) = held := by
  apply List.ext_getElem?
  intro j
  simp [extended, List.getElem?_mapIdx]

/-- One list of criteria grows, and those behind it are new. -/
theorem set_eq_extended {held new : List (List Value)} {criteria : List Value}
    (h : held[i]? = some criteria) (more : List Value) :
    (held ++ new).set i (criteria ++ more) =
      extended held (fun j => if some i = some j then more else []) ++ new := by
  have hi : i < held.length := (List.getElem?_eq_some_iff.mp h).1
  rw [List.set_append_left _ _ hi]
  congr 1
  apply List.ext_getElem?
  intro j
  rw [extended, List.getElem?_mapIdx, List.getElem?_set]
  by_cases hij : i = j
  · subst hij
    rw [h]
    simp [hi]
  · cases held[j]? <;> simp [hij]

/-- Where groups came only behind those of a store, each of these has the criteria that it had there. -/
theorem getElem?_clauses_before {t : Store} {g : CriteriaGroup} {new : List (List Value)}
    (hnew : t.clauses = s.clauses ++ new) (hi : s.Has (.group i)) (hg : t.groups[i]? = some g) :
    s.clauses[i]? = some g.criteria := by
  have hlt : i < s.clauses.length := by
    rw [clauses, List.length_map]
    exact hi
  have hnow : t.clauses[i]? = some g.criteria := by rw [getElem?_clauses, hg]; rfl
  rwa [hnew, List.getElem?_append_left hlt] at hnow

theorem addCommand_founds (i : Nat) (v : Value) : Founds (addCommand i v) s [] := by
  intro _ s' hrun
  obtain ⟨-, -, -, -, -, -, hgroups⟩ := run_addCommand_inv hrun
  simp only [clauses, hgroups, List.append_nil]

/-- An operation that adds no criterion founds the groups that it tells. -/
theorem perform_founds (hwf : s.WellFormed) (hslots : s.HoldsEach slots) (hvalue : s.Holds value)
    {op : Operation} (hadd : ∀ e, op ≠ .add e) (hcriterion : ∀ e, op ≠ .addCriterion e) :
    Founds (perform slots value op) s (op.founded slots value s) := by
  cases op with
  | add e => exact absurd rfl (hadd e)
  | addCriterion e => exact absurd rfl (hcriterion e)
  | addCommand command =>
      simp only [perform]
      split
      · exact (command.build_founds slots s hwf hslots).bind_quiet fun v _ _ =>
          (addCommand_founds _ v).bind_pure
      · exact .of_error (run_bind_error (run_refuse _))
  | append command =>
      simp only [perform]
      split
      · exact (command.build_founds slots s hwf hslots).bind_runs (command.build_runs slots s hwf hslots)
          fun v t hleads hv => (append_founds hleads.wellFormed hv _).bind_pure
      · exact .of_error (run_bind_error (run_refuse _))
  | copy =>
      have hcopy : Founds (copyOf value) s (Operation.founded slots value s .copy) := by
        unfold copyOf
        split
        · exact (copyGroup_founds _).bind_pure
        · exact (copyUnit_founds hwf _).bind_pure
        · exact .of_error (run_refuse _)
      exact hcopy.map
  | freeze =>
      have hfreeze : Founds (freezeOf value) s (Operation.founded slots value s .freeze) := by
        unfold freezeOf
        split
        · exact (freezeGroup_founds _).bind_pure
        · exact (freezeUnit_founds hwf _).bind_pure
        · exact .of_error (run_refuse _)
      exact hfreeze.map
  -- The other operations look at builders and found none.
  | render => exact reads_writtenBuilder.founds.map
  | encode =>
      have htext := (reads_textOf hwf.inherits hvalue).founds
      apply htext.quiet_bind
      intro v t _
      cases v <;> first | exact Founds.pure _ | exact .of_error (run_refuse _)
  | text => exact (reads_textOf hwf.inherits hvalue).founds.map
  | criteria => exact (reads_property hwf.inherits hvalue "criteria").founds.map
  | commands => exact (reads_property hwf.inherits hvalue "commands").founds.map
  | frozen => exact reads_frozenOf.founds.map
  | length => exact reads_lengthOf.founds.bind_pure
  | written => exact reads_writtenOf.founds.map
  | shown => exact reads_get.founds.bind_pure
  | truth => exact reads_truthOf.founds.map
  | entries => exact (reads_commandsOf hwf.inherits hvalue).founds.map
  | hash => exact reads_checkSettled.founds.bind_pure

/-- A criterion that is added to a group comes behind those that it has. -/
theorem perform_add_clauses (hwf : s.WellFormed) (hslots : s.HoldsEach slots)
    (hvalue : s.Holds value) {e : Expression}
    (hrun : (perform slots value (.add e)).run s = .ok answer s') :
    s'.clauses = extended s.clauses (fun i => Operation.added slots value s i (.add e)) ++
      Operation.founded slots value s (.add e) := by
  obtain ⟨i, rfl⟩ : ∃ i, value = .builder (.group i) := by
    simp only [perform] at hrun
    split at hrun
    · exact ⟨_, rfl⟩
    · rw [run_bind_error (run_refuse _)] at hrun
      cases hrun
  obtain ⟨v, t, hbuild, hadd⟩ := run_perform_add_inv hrun
  have hfounds := e.build_founds slots s hwf hslots v t hbuild
  obtain ⟨g, criterion, hg, -, -, rfl⟩ := run_addToGroup_inv hadd
  have hold := getElem?_clauses_before hfounds hvalue hg
  have hset : (t.setGroup i ⟨g.criteria ++ [v], extendClause g.text criterion.render, false⟩).clauses =
      t.clauses.set i (g.criteria ++ [v]) := List.map_set
  have hadded (j : Nat) : Operation.added slots (.builder (.group i)) s j (.add e) =
      if some i = some j then [v] else [] := by
    simp only [Operation.added, reached, behind_ok hbuild]
  rw [hset, hfounds, set_eq_extended hold]
  simp only [hadded]
  rfl

/-- A criterion that is added to a unit comes behind those of its clause, or founds a clause. -/
theorem perform_addCriterion_clauses (hwf : s.WellFormed) (hslots : s.HoldsEach slots)
    (hvalue : s.Holds value) {e : Expression}
    (hrun : (perform slots value (.addCriterion e)).run s = .ok answer s') :
    s'.clauses = extended s.clauses (fun i => Operation.added slots value s i (.addCriterion e)) ++
      Operation.founded slots value s (.addCriterion e) := by
  obtain ⟨i, rfl⟩ : ∃ i, value = .builder (.unit i) := by
    simp only [perform] at hrun
    split at hrun
    · exact ⟨_, rfl⟩
    · rw [run_bind_error (run_refuse _)] at hrun
      cases hrun
  simp only [perform] at hrun
  obtain ⟨v, t, hbuild, hrest⟩ := run_bind_eq_ok hrun
  obtain ⟨_, t', hadd, hlast⟩ := run_bind_eq_ok hrest
  cases hlast
  have hfounds := e.build_founds slots s hwf hslots v t hbuild
  have hruns : Runs (fun _ => False) False _ (e.build slots) s _ := e.build_runs slots s hwf hslots
  obtain ⟨hleads, -⟩ := hruns.answered hbuild
  obtain ⟨u, w, hu, -, -, -, hclause⟩ := run_addCriterion_inv hleads.wellFormed hadd
  -- evaluating the criterion leaves the unit and its clause as they were
  have hhas : s.Has (.unit i) := hvalue
  have hunit : s.units[i]? = some u := by
    have hsame : t.units[i]? = s.units[i]? := hleads.frame (.unit i) hhas not_false
    exact hsame.symm.trans hu
  have hreached : s.reached (.builder (.unit i)) = u.clause := by
    simp only [reached, hunit, Option.bind_some]
  have hadded (j : Nat) : Operation.added slots (.builder (.unit i)) s j (.addCriterion e) =
      if u.clause = some j then [v] else [] := by
    simp only [Operation.added, hreached, behind_ok hbuild]
  have hfounded : Operation.founded slots (.builder (.unit i)) s (.addCriterion e) =
      e.founded slots s ++ if u.clause = none then [[v]] else [] := by
    simp only [Operation.founded, hreached, behind_ok hbuild]
  simp only [hadded, hfounded]
  obtain ⟨hnone, -, g, hgroups, hcriteria⟩ | ⟨c, g, g', hc, -, hg, hgroups, hcriteria⟩ := hclause
  · have hnew : s'.clauses = t.clauses ++ [[v]] := by
      simp only [clauses, hgroups, List.map_append, List.map_cons, List.map_nil, hcriteria]
    rw [hnew, hfounds]
    simp [hnone, extended_nil]
  · have hset : s'.clauses = t.clauses.set c (g.criteria ++ [v]) := by
      simp only [clauses, hgroups, List.map_set, hcriteria]
    have hold := getElem?_clauses_before hfounds (hwf.has_clause hunit hc) hg
    rw [hset, hfounds, set_eq_extended hold]
    simp [hc]

/-- Every operation that answers extends the groups that it adds to, and founds the groups it tells. -/
theorem perform_clauses (hwf : s.WellFormed) (hslots : s.HoldsEach slots) (hvalue : s.Holds value)
    {op : Operation} (hrun : (perform slots value op).run s = .ok answer s') :
    s'.clauses = extended s.clauses (fun i => op.added slots value s i) ++
      op.founded slots value s := by
  cases op with
  | add e => exact perform_add_clauses hwf hslots hvalue hrun
  | addCriterion e => exact perform_addCriterion_clauses hwf hslots hvalue hrun
  | _ =>
      have hfounds := perform_founds hwf hslots hvalue (fun _ h => by cases h)
        (fun _ h => by cases h) _ _ hrun
      rw [hfounds]
      exact congrArg (· ++ _) (extended_nil _).symm

end Building

namespace Session

open Building

variable {σ : Session} {step : Step}

/-- Whether a step does not fail. -/
def Answers (σ : Session) (step : Step) : Prop := ∃ answer, (σ.run step).1 = .ok answer

/-- The criteria that a step adds to the group with an index. -/
def added (σ : Session) (step : Step) (i : Nat) : List Value :=
  match step with
  | .call on operation _ => operation.added σ.slots (σ.value on) σ.store i
  | _ => []

/-- The criteria of the groups that a step founds. -/
def founded (σ : Session) : Step → List (List Value)
  | .assign _ value => value.founded σ.slots σ.store
  | .coerce _ value =>
    value.founded σ.slots σ.store ++ behind (value.build σ.slots) σ.store fun v s => s.entryCopies v
  | .call on operation _ => operation.founded σ.slots (σ.value on) σ.store
  | .compare a b =>
    a.founded σ.slots σ.store ++ behind (a.build σ.slots) σ.store fun _ s => b.founded σ.slots s
  | .distinct values => Expression.foundedAll σ.slots values σ.store
  | .walk .. => []
  | .observe _ => []

/-- The criteria of all groups as a script tells them: what each was founded with, and behind that what
was added to it. -/
def ledger : Session → List Step → List (List Value) → List (List Value)
  | _, [], held => held
  | σ, step :: rest, held =>
    ledger (σ.run step).2 rest (extended held (σ.added step) ++ σ.founded step)

/-- The criteria that a script adds to the group with an index. -/
def addedAlong : Session → List Step → Nat → List Value
  | _, [], _ => []
  | σ, step :: rest, i => σ.added step i ++ addedAlong (σ.run step).2 rest i

theorem action_founds (h : σ.WellFormed) (hcall : ∀ on op into, step ≠ .call on op into) :
    Founds (σ.action step) σ.store (σ.founded step) := by
  cases step with
  | assign into value => exact (value.build_founds σ.slots σ.store h.store h.slots).map
  | coerce into value =>
      exact (value.build_founds σ.slots σ.store h.store h.slots).bind_runs
        (value.build_runs σ.slots σ.store h.store h.slots) fun _ _ hleads hv =>
          (entry_founds hleads.wellFormed hv).bind_pure
  | call on operation into => exact absurd rfl (hcall on operation into)
  | walk on into path => exact (reads_walk h.store.inherits path _ (h.holds_value on)).founds.map
  | compare a b =>
      refine (a.build_founds σ.slots σ.store h.store h.slots).bind_runs
        (a.build_runs σ.slots σ.store h.store h.slots) fun _ t hleads _ => ?_
      exact (b.build_founds σ.slots t hleads.wellFormed (hleads.grows.holdsEach h.slots)).bind_quiet
        fun _ _ _ => reads_get.founds.bind_pure
  | distinct values =>
      simp only [action, mapM_build]
      exact (Expression.buildAll_founds σ.slots values σ.store h.store h.slots).bind_quiet
        fun vs _ _ => (reads_countDistinct vs).founds.bind_pure
  | observe on => exact Founds.pure _

/-- A step that answers extends the groups that it adds to, and founds the groups that it tells. -/
theorem run_clauses (h : σ.WellFormed) (hanswers : σ.Answers step) :
    (σ.run step).2.store.clauses = extended σ.store.clauses (σ.added step) ++ σ.founded step := by
  obtain ⟨answer, hanswer⟩ := hanswers
  cases hrun : (σ.action step).run σ.store with
  | error fault s =>
      rw [run_of_error hrun] at hanswer
      cases hanswer
  | ok answer' s =>
      rw [(run_of_ok hrun).2.1]
      cases step with
      | call on operation into => exact perform_clauses h.store h.slots (h.holds_value on) hrun
      | _ =>
          have hfounds := action_founds h (fun _ _ _ h => by cases h) _ _ hrun
          rw [hfounds]
          exact congrArg (· ++ _) (extended_nil _).symm

/-- The groups of a session after steps that answer are those that the script tells. -/
theorem after_clauses (h : σ.WellFormed) {script : List Step} (hscript : Along Answers σ script) :
    (σ.after script).store.clauses = σ.ledger script σ.store.clauses := by
  induction script generalizing σ with
  | nil => rfl
  | cons step rest ih =>
      have hrest := ih (run_wellFormed h step) hscript.2
      rw [run_clauses h hscript.1] at hrest
      exact hrest

/-- A group that is there has later what it has, and behind it what is added from then on. -/
theorem after_added (h : σ.WellFormed) {script : List Step} (hscript : Along Answers σ script)
    {i : Nat} {criteria : List Value} (hi : σ.store.clauses[i]? = some criteria) :
    (σ.after script).store.clauses[i]? = some (criteria ++ σ.addedAlong script i) := by
  induction script generalizing σ criteria with
  | nil =>
      rw [addedAlong, List.append_nil]
      exact hi
  | cons step rest ih =>
      have hnext : (σ.run step).2.store.clauses[i]? = some (criteria ++ σ.added step i) := by
        have hlt : i < (extended σ.store.clauses (σ.added step)).length := by
          simpa [extended] using (List.getElem?_eq_some_iff.mp hi).1
        rw [run_clauses h hscript.1, List.getElem?_append_left hlt]
        simp [extended, List.getElem?_mapIdx, hi]
      have hall := ih (run_wellFormed h step) hscript.2 hnext
      rw [List.append_assoc] at hall
      exact hall

theorem Answers.accepts (h : σ.Answers step) : σ.Accepts step := by
  obtain ⟨answer, hanswer⟩ := h
  exact accepts_of_ok hanswer

/-- Along a script whose steps answer, every group has criteria and the text of the clause of these. The
criteria of all groups are those that the script tells, and from any state of it on, a group has those
that it had there and behind them those that were added to it since, in their order. -/
theorem clauses_in_order {script : List Step} (hscript : Along Answers start script) :
    (∀ (i : Nat) g, (start.after script).store.groups[i]? = some g →
      g.criteria ≠ [] ∧ clauseText g.criteria = .ok g.text) ∧
    (start.after script).store.clauses = start.ledger script [] ∧
    ∀ before later, script = before ++ later →
      ∀ (i : Nat) criteria, (start.after before).store.clauses[i]? = some criteria →
        (start.after script).store.clauses[i]? =
          some (criteria ++ (start.after before).addedAlong later i) := by
  refine ⟨?_, after_clauses wellFormed_start hscript, ?_⟩
  · exact after_groupsInStep (hscript.imp fun _ _ hanswers => hanswers.accepts)
  · rintro before later rfl i criteria hi
    have hlater := hscript.behind
    rw [after_append]
    exact after_added (after_wellFormed wellFormed_start before) hlater hi

/-- A group and the clause of a unit, grown by every way there is, with titles that end as a clause does,
and copied and frozen between. -/
def grownClauses : List Step :=
  [.assign "group" (.group [.record (.criterion (.property .title))
      [("value", .literal (.text "a]\""))]] false),
    .call "group" (.add (.record (.criterion .tiling) [])) none,
    .call "group" .copy (some "copied"),
    .call "copied" (.add (.record (.criterion .floating) [])) none,
    .assign "unit" (.unit [(.command, .record (.subCommand .kill) [])] false),
    .call "unit" (.addCriterion (.record (.criterion (.property .title))
      [("value", .literal (.text "\"]"))])) none,
    .call "unit" .criteria (some "clause"),
    .call "clause" (.add (.record (.criterion .tiling) [])) none,
    .call "unit" .freeze (some "frozen"),
    .call "unit" (.addCriterion (.record (.criterion .floating) [])) none]

theorem grownClauses_in_order : Along Answers start grownClauses ∧
    (∀ (i : Nat) g, (start.after grownClauses).store.groups[i]? = some g →
      g.criteria ≠ [] ∧ clauseText g.criteria = .ok g.text) ∧
    (start.after grownClauses).store.groups.map CriteriaGroup.text =
      ["[title=\"a]\"\" tiling]", "[title=\"a]\"\" tiling floating]",
        "[title=\"\"]\" tiling floating]", "[title=\"\"]\" tiling]", "[title=\"\"]\" tiling]"] := by
  have hanswers : Along Answers start grownClauses :=
    ⟨⟨_, rfl⟩, ⟨_, rfl⟩, ⟨_, rfl⟩, ⟨_, rfl⟩, ⟨_, rfl⟩, ⟨_, rfl⟩, ⟨_, rfl⟩, ⟨_, rfl⟩, ⟨_, rfl⟩,
      ⟨_, rfl⟩, trivial⟩
  exact ⟨hanswers, (clauses_in_order hanswers).1, by decide +kernel⟩

end Session

end SwayControl
