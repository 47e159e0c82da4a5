import SwayControl.Proofs.Builder.Evolution
import SwayControl.Proofs.Builder.Script

/-!
Accepted steps. Every step of a script that takes its arguments lets the store evolve, direct edits of a
clause included; so what every change keeps holds of all states that accepted steps lead to.
-/

namespace SwayControl

namespace Building

open Store

variable {α β : Type} {s : Store} {value : Value}

theorem keptCriteria_evolving (value : Value) : Evolving (keptCriteria value) s := by
  cases value with
  | builder ref =>
      cases ref with
      | group i => exact (freezeGroup_evolving i).bind_pure
      | _ => exact .of_refused (run_refuse _)
  | _ => exact .of_refused (run_refuse _)

theorem keptFields_evolving (hwf : s.WellFormed) (form : Form) {fields : List Value}
    (hfields : s.HoldsAll fields) : Evolving (keptFields form fields) s := by
  fun_cases keptFields form fields with
  | case1 criteria workspace | case2 criteria output => exact (keptCriteria_evolving criteria).bind_pure
  | case3 criteria => exact (keptCriteria_evolving criteria).bind_pure
  | case4 criteria command =>
      refine (keptCriteria_runs hwf).evolving_bind (keptCriteria_evolving criteria) ?_
      intro kept t hleads _
      have hcommand := hleads.grows.holds command hfields.2.1
      exact (entry_evolving hleads.wellFormed hcommand).bind_pure
  | case5 key command flags | case6 key command flags =>
      exact (entry_evolving hwf hfields.2.1).bind_pure
  | case7 switch state command flags => exact (entry_evolving hwf hfields.2.2.1).bind_pure
  | case8 => exact Evolving.pure _

theorem record_evolving (hwf : s.WellFormed) (form : Form) {fields : List Value}
    (hfields : s.HoldsAll fields) : Evolving (record form fields) s := by
  unfold record
  cases checkRecord form fields with
  | error fault => exact .of_untouched (run_throw_fault fault)
  | ok _ => exact (keptFields_evolving hwf form hfields).bind_pure

theorem buildGroup_evolving (criteria : List Value) (frozen : Bool) :
    Evolving (buildGroup criteria frozen) s := by
  cases criteria with
  | nil => exact .of_refused (run_refuse _)
  | cons first rest =>
      refine (groupOf_evolving first rest).bind fun i t _ => ?_
      cases frozen with
      | false => exact Evolving.pure _
      | true => exact (freezeGroup_evolving i).bind_pure

/-- Whatever is added to a unit, it leaves a well-formed store. -/
theorem addPart_wellFormed (hwf : s.WellFormed) {part : UnitPart × Value} (hpart : s.Holds part.2)
    (i : Nat) : Runs (fun _ => True) False [] (addPart i part) s fun _ _ => True := by
  obtain ⟨kind, value⟩ := part
  cases kind with
  | criterion =>
      exact (addCriterion_runs hwf hpart trivial fun _ _ _ _ => trivial).imp fun _ _ _ _ => trivial
  | command => exact (addCommand_runs hwf hpart trivial).imp fun _ _ _ _ => trivial

theorem addPart_evolving (hwf : s.WellFormed) (i : Nat) (part : UnitPart × Value) :
    Evolving (addPart i part) s := by
  obtain ⟨kind, value⟩ := part
  cases kind with
  | criterion => exact addCriterion_evolving hwf i value
  | command => exact addCommand_evolving i value

theorem buildUnit_evolving (hwf : s.WellFormed) {parts : List (UnitPart × Value)}
    (hparts : s.HoldsEach parts) (frozen : Bool) : Evolving (buildUnit parts frozen) s := by
  have hheld (part : UnitPart × Value) (t t' : Store) (hpart : t.Holds part.2) (hgrows : t.Grows t') :
      t'.Holds part.2 := hgrows.holds part.2 hpart
  have hround (i : Nat) (part : UnitPart × Value) (t : Store) (ht : t.WellFormed)
      (hpart : t.Holds part.2) := addPart_wellFormed ht hpart i
  refine (startUnit_runs hwf).evolving_bind startUnit_evolving fun i t hstart _ => ?_
  have hparts' := hstart.grows.holdsEach hparts
  have hruns : Runs (fun _ => True) False [] (parts.forM (addPart i)) t fun _ _ => True :=
    Runs.forM (fun _ => True) (addPart i) (fun part t => t.Holds part.2) (fun _ => True) hheld
      (fun part t ht hpart _ => hround i part t ht hpart) parts t hstart.wellFormed hparts' trivial
  have hloop := forM_evolving hheld (fun part t ht hpart => ⟨[], hround i part t ht hpart⟩)
    (fun part t ht _ => addPart_evolving ht i part) parts t hstart.wellFormed hparts'
  refine hruns.evolving_bind hloop fun _ t' hadd _ => ?_
  cases frozen with
  | false => exact Evolving.pure _
  | true => exact (freezeUnit_evolving hadd.wellFormed i).bind_pure

theorem buildBatch_evolving (hwf : s.WellFormed) {commands : List Value}
    (hcommands : s.HoldsAll commands) : Evolving (buildBatch commands) s := by
  have hstart : Evolving startBatch s := .of_ok run_startBatch (.single .startBatch)
  have hbatch : Evolving (batchOf commands) s := by
    refine (startBatch_runs hwf).evolving_bind hstart fun i t hleads _ => ?_
    have hcommands' := holdsAll_iff.mp (hleads.grows.holdsAll commands hcommands)
    have hloop := forM_evolving (g := append i) (fun v t t' hv hgrows => hgrows.holds v hv)
      (fun v t ht hv => ⟨_, append_runs ht hv trivial⟩) (fun v t ht hv => append_evolving ht hv i)
      commands t hleads.wellFormed hcommands'
    exact hloop.bind_pure
  exact hbatch.bind_pure

theorem Reads.evolving {x : Building α} {post : α → Prop} (hx : Reads x s post) : Evolving x s := by
  apply Ends.imp hx
  · rintro a s' ⟨rfl, -⟩
    exact .refl
  · rintro fault s' rfl _
    exact .refl

end Building

namespace Expression

open Building

mutual

/-- Building what an expression describes lets the store evolve. -/
theorem build_evolving (slots : Slots) : ∀ (e : Expression) (s : Store), s.WellFormed →
    s.HoldsEach slots → Evolving (e.build slots) s
  | .literal _, _, _, _ => Evolving.pure _
  | .slot _, _, _, _ => Evolving.pure _
  | .tuple items, s, hwf, hslots => (buildAll_evolving slots items s hwf hslots).bind_pure
  | .record form given, s, hwf, hslots => by
      refine (buildFields_runs slots given s hwf hslots).evolving_bind
        (buildFields_evolving slots given s hwf hslots) fun fields t hleads hfields => ?_
      exact record_evolving hleads.wellFormed form (Store.holdsAll_complete form hfields)
  | .group criteria frozen, s, hwf, hslots =>
      (buildAll_evolving slots criteria s hwf hslots).bind fun values _ _ =>
        buildGroup_evolving values frozen
  | .unit parts frozen, s, hwf, hslots => by
      refine (buildParts_runs slots parts s hwf hslots).evolving_bind
        (buildParts_evolving slots parts s hwf hslots) fun values t hleads hvalues => ?_
      exact buildUnit_evolving hleads.wellFormed hvalues frozen
  | .batch commands, s, hwf, hslots => by
      refine (buildAll_runs slots commands s hwf hslots).evolving_bind
        (buildAll_evolving slots commands s hwf hslots) fun values t hleads hvalues => ?_
      exact buildBatch_evolving hleads.wellFormed hvalues

theorem buildAll_evolving (slots : Slots) : ∀ (items : List Expression) (s : Store), s.WellFormed →
    s.HoldsEach slots → Evolving (buildAll slots items) s
  | [], _, _, _ => Evolving.pure _
  | item :: rest, s, hwf, hslots => by
      refine (build_runs slots item s hwf hslots).evolving_bind
        (build_evolving slots item s hwf hslots) fun _ t hleads _ => ?_
      exact (buildAll_evolving slots rest t hleads.wellFormed
        (hleads.grows.holdsEach hslots)).bind_pure

theorem buildFields_evolving (slots : Slots) : ∀ (given : List (String × Expression)) (s : Store),
    s.WellFormed → s.HoldsEach slots → Evolving (buildFields slots given) s
  | [], _, _, _ => Evolving.pure _
  | (_, item) :: rest, s, hwf, hslots => by
      refine (build_runs slots item s hwf hslots).evolving_bind
        (build_evolving slots item s hwf hslots) fun _ t hleads _ => ?_
      exact (buildFields_evolving slots rest t hleads.wellFormed
        (hleads.grows.holdsEach hslots)).bind_pure

theorem buildParts_evolving (slots : Slots) : ∀ (parts : List (UnitPart × Expression)) (s : Store),
    s.WellFormed → s.HoldsEach slots → Evolving (buildParts slots parts) s
  | [], _, _, _ => Evolving.pure _
  | (_, item) :: rest, s, hwf, hslots => by
      refine (build_runs slots item s hwf hslots).evolving_bind
        (build_evolving slots item s hwf hslots) fun _ t hleads _ => ?_
      exact (buildParts_evolving slots rest t hleads.wellFormed
        (hleads.grows.holdsEach hslots)).bind_pure

end

end Expression

namespace Building

variable {s : Store} {value : Value} {slots : Slots}

/-- An operation that changes a builder by a value first evaluates what describes the value. -/
theorem argument_evolving {α : Type} (hwf : s.WellFormed) (hslots : s.HoldsEach slots)
    (e : Expression) {f : Value → Building α}
    (hf : ∀ v t, t.WellFormed → t.Holds v → Evolving (f v) t) :
    Evolving (e.build slots >>= f) s :=
  (e.build_runs slots s hwf hslots).evolving_bind (e.build_evolving slots s hwf hslots)
    fun v t hleads hv => hf v t hleads.wellFormed hv

theorem copyOf_evolving (hwf : s.WellFormed) (value : Value) : Evolving (copyOf value) s := by
  unfold copyOf
  split
  · exact (copyGroup_evolving _).bind_pure
  · exact (copyUnit_evolving hwf _).bind_pure
  · exact .of_refused (run_refuse _)

theorem freezeOf_evolving (hwf : s.WellFormed) (value : Value) : Evolving (freezeOf value) s := by
  unfold freezeOf
  split
  · exact (freezeGroup_evolving _).bind_pure
  · exact (freezeUnit_evolving hwf _).bind_pure
  · exact .of_refused (run_refuse _)

theorem perform_evolving (hwf : s.WellFormed) (hslots : s.HoldsEach slots) (hvalue : s.Holds value)
    (op : Operation) : Evolving (perform slots value op) s := by
  cases op with
  | add criterion =>
      simp only [perform]
      split
      · exact argument_evolving hwf hslots criterion fun v t _ _ =>
          (addToGroup_evolving _ v).bind_pure
      · exact .of_refused (run_bind_error (run_refuse _))
  | addCriterion criterion =>
      simp only [perform]
      split
      · exact argument_evolving hwf hslots criterion fun v t ht _ =>
          (addCriterion_evolving ht _ v).bind_pure
      · exact .of_refused (run_bind_error (run_refuse _))
  | addCommand command =>
      simp only [perform]
      split
      · exact argument_evolving hwf hslots command fun v t _ _ =>
          (addCommand_evolving _ v).bind_pure
      · exact .of_refused (run_bind_error (run_refuse _))
  | append command =>
      simp only [perform]
      split
      · exact argument_evolving hwf hslots command fun v t ht hv =>
          (append_evolving ht hv _).bind_pure
      · exact .of_refused (run_bind_error (run_refuse _))
  | copy => exact (copyOf_evolving hwf value).map
  | freeze => exact (freezeOf_evolving hwf value).map
  -- The other operations look at builders and change none.
  | render => exact reads_writtenBuilder.evolving.map
  | encode =>
      refine (reads_textOf hwf.inherits hvalue).evolving.bind fun v _ _ => ?_
      cases v <;> first | exact Evolving.pure _ | exact .of_refused (run_refuse _)
  | text => exact (reads_textOf hwf.inherits hvalue).evolving.map
  | criteria => exact (reads_property hwf.inherits hvalue "criteria").evolving.map
  | commands => exact (reads_property hwf.inherits hvalue "commands").evolving.map
  | frozen => exact reads_frozenOf.evolving.map
  | length => exact reads_lengthOf.evolving.bind_pure
  | written => exact reads_writtenOf.evolving.map
  | shown => exact reads_get.evolving.bind_pure
  | truth => exact reads_truthOf.evolving.map
  | entries => exact (reads_commandsOf hwf.inherits hvalue).evolving.map
  | hash => exact reads_checkSettled.evolving.bind_pure

end Building

namespace Session

open Building

variable {σ : Session} {step : Step}

theorem action_evolving (h : σ.WellFormed) (step : Step) : Evolving (σ.action step) σ.store := by
  cases step with
  | assign into value => exact (value.build_evolving σ.slots σ.store h.store h.slots).map
  | coerce into value =>
      exact argument_evolving h.store h.slots value fun v t ht hv =>
        (entry_evolving ht hv).bind_pure
  | call on operation into => exact perform_evolving h.store h.slots (h.holds_value on) operation
  | walk on into path => exact (reads_walk h.store.inherits path _ (h.holds_value on)).evolving.map
  | compare a b =>
      refine (a.build_runs σ.slots σ.store h.store h.slots).evolving_bind
        (a.build_evolving σ.slots σ.store h.store h.slots) fun _ t hleads _ => ?_
      exact argument_evolving hleads.wellFormed (hleads.grows.holdsEach h.slots) b
        fun _ _ _ _ => reads_get.evolving.bind_pure
  | distinct values =>
      simp only [action, mapM_build]
      refine (Expression.buildAll_evolving σ.slots values σ.store h.store h.slots).bind ?_
      exact fun vs _ _ => (reads_countDistinct vs).evolving.bind_pure
  | observe on => exact Evolving.pure _

/-- An accepted step lets the store evolve. -/
theorem run_evolves (h : σ.WellFormed) (haccepts : σ.Accepts step) :
    σ.store.Evolves (σ.run step).2.store := by
  have haction := action_evolving h step
  unfold Evolving at haction
  cases hrun : (σ.action step).run σ.store with
  | ok answer s =>
      simp only [hrun] at haction
      rw [(run_of_ok hrun).2.1]
      exact haction
  | error fault s =>
      simp only [hrun] at haction
      rw [run_of_error hrun]
      apply haction
      rintro refusal rfl
      exact haccepts refusal (by rw [run_of_error hrun])

/-- A script of accepted steps lets the store evolve. -/
theorem after_evolves (h : σ.WellFormed) {script : List Step} (hscript : Along Accepts σ script) :
    σ.store.Evolves (σ.after script).store := by
  induction script generalizing σ with
  | nil => exact .refl
  | cons step rest ih => exact (run_evolves h hscript.1).trans (ih (run_wellFormed h step) hscript.2)

/-- What holds of a store without builders, and is kept by every change, holds of every state that
accepted steps lead to. -/
theorem after_invariant {inv : Store → Prop} (hempty : inv Store.empty)
    (hchange : ∀ s s' : Store, s.Change s' → inv s → inv s') {script : List Step}
    (hscript : Along Accepts start script) : inv (start.after script).store :=
  (after_evolves wellFormed_start hscript).invariant hchange hempty

end Session

end SwayControl
