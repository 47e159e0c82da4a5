import SwayControl.Builder.Expression
import SwayControl.Proofs.Builder.Entry

/-!
Making builders and records. A group, a unit or a batch that is made of given values touches nothing but
itself. A binding or a rule keeps frozen copies, and what it is written as embeds what the criteria and
the command that it was given were written as.
-/

namespace SwayControl

/-- The command that the fields of a binding or rule give. -/
def TopLevelForm.commandOf : TopLevelForm → List Value → Value
  | .bindsym, [_, command, _] => command
  | .bindcode, [_, command, _] => command
  | .bindswitch, [_, _, command, _] => command
  | .forWindow, [_, command] => command
  | _, _ => .absent

namespace Building

variable {target : Ref → Prop} {s s' : Store} {i : Nat} {value : Value}

theorem groupOf_runs (hwf : s.WellFormed) {first : Value} {rest : List Value}
    (hfirst : s.Holds first) (hrest : s.HoldsAll rest) :
    Runs target False [] (groupOf first rest) s fun j s' => s'.Has (.group j) := by
  apply Runs.of_fresh
  simp only [groupOf]
  apply Runs.bind_quiet (startGroup_runs hwf hfirst)
  rintro _ s₁ _ hstart ⟨rfl, hhas, hloose⟩
  have hfresh : ¬ s.Has (.group s.groups.length) := Nat.lt_irrefl _
  -- The new group is nobody's clause while criteria are added to it.
  have hloop := Runs.forM (fun ref => ¬ s.Has ref) (addToGroup s.groups.length)
    (fun v t => t.Holds v)
    (fun t => t.Has (.group s.groups.length) ∧ t.Loose s.groups.length)
    (fun v _ _ hv hgrows => hgrows.holds v hv)
    (fun v t ht hv hinv => (addToGroup_runs ht hv hfresh).mono (fun _ _ htarget => htarget)
      (fun hnot => hnot hinv.2)
      fun _ t' hleads hunits => ⟨hleads.grows.has hinv.1, by
        intro j u hu
        exact hinv.2 j u (hunits ▸ hu)⟩)
  refine Runs.bind_quiet (hloop rest s₁ hstart.wellFormed
    (Store.holdsAll_iff.mp (hstart.grows.holdsAll rest hrest)) ⟨hhas, hloose⟩) ?_
  intro _ s₂ _ hadd hinv
  exact Runs.pure hadd.wellFormed hinv.1

theorem buildGroup_runs (hwf : s.WellFormed) {criteria : List Value} (hcriteria : s.HoldsAll criteria)
    (frozen : Bool) :
    Runs target False [] (buildGroup criteria frozen) s fun v s' => s'.Holds v := by
  cases criteria with
  | nil => exact Runs.of_untouched hwf (run_refuse _)
  | cons first rest =>
      apply Runs.bind_quiet (groupOf_runs hwf hcriteria.1 hcriteria.2)
      intro i s₁ _ hgroup hhas
      cases frozen with
      | false => exact Runs.pure hgroup.wellFormed hhas
      | true =>
          apply Runs.bind_quiet (freezeGroup_runs hgroup.wellFormed)
          rintro j s₂ _ hfreeze ⟨hfrozen, _⟩
          exact Runs.pure hfreeze.wellFormed hfrozen.has

/-- A part that is added to a new unit touches the unit and its clause, which is new as well. -/
theorem addPart_runs {base : Store} (hwf : s.WellFormed) (hbase : base.Grows s)
    {part : UnitPart × Value} (hpart : s.Holds part.2) (hfresh : ¬ base.Has (.unit i))
    (hclause : ∃ u, s.units[i]? = some u ∧ ∀ c, u.clause = some c → ¬ base.Has (.group c)) :
    Runs (fun ref => ¬ base.Has ref) False [] (addPart i part) s fun _ s' =>
      ∃ u, s'.units[i]? = some u ∧ ∀ c, u.clause = some c → ¬ base.Has (.group c) := by
  obtain ⟨u, hu, hc⟩ := hclause
  obtain ⟨kind, value⟩ := part
  cases kind with
  | criterion =>
      refine (addCriterion_runs hwf hpart hfresh fun v c hv hvc => ?_).imp ?_
      · exact hc c (Option.some.inj (hu.symm.trans hv) ▸ hvc)
      · rintro _ s' _ ⟨u', hu', hc'⟩
        refine ⟨u', hu', fun c huc => ?_⟩
        rcases hc' c huc with hnew | hnew
        · exact hnew
        · exact fun hhas => hnew (hbase.has hhas)
  | command =>
      apply (addCommand_runs hwf hpart hfresh).imp
      rintro _ s' _ ⟨v, _, hv, _, hu'⟩
      refine ⟨_, hu', fun c hvc => ?_⟩
      exact hc c (Option.some.inj (hu.symm.trans hv) ▸ hvc)

theorem buildUnit_runs (hwf : s.WellFormed) {parts : List (UnitPart × Value)}
    (hparts : ∀ part ∈ parts, s.Holds part.2) (frozen : Bool) :
    Runs target False [] (buildUnit parts frozen) s fun v s' => s'.Holds v := by
  apply Runs.of_fresh
  simp only [buildUnit]
  apply Runs.bind_quiet (startUnit_runs hwf)
  rintro _ s₁ _ hstart ⟨rfl, hnew⟩
  have hfresh : ¬ s.Has (.unit s.units.length) := Nat.lt_irrefl _
  have hloop := Runs.forM (fun ref => ¬ s.Has ref) (addPart s.units.length)
    (fun part t => t.Holds part.2)
    (fun t => s.Grows t ∧ ∃ u, t.units[s.units.length]? = some u ∧
      ∀ c, u.clause = some c → ¬ s.Has (.group c))
    (fun part _ _ hpart hgrows => hgrows.holds part.2 hpart)
    (fun part t ht hpart hinv => (addPart_runs ht hinv.1 hpart hfresh hinv.2).imp
      fun _ t' hleads hclause => ⟨hinv.1.trans hleads.grows, hclause⟩)
  refine Runs.bind_quiet (hloop parts s₁ hstart.wellFormed
    (fun part hpart => hstart.grows.holds part.2 (hparts part hpart))
    ⟨hstart.grows, _, hnew, fun c hc => by cases hc⟩) ?_
  rintro _ s₂ _ hadd ⟨_, u, hu, _⟩
  have hhas : s₂.Has (.unit s.units.length) := Store.has_unit hu
  cases frozen with
  | false => exact Runs.pure hadd.wellFormed hhas
  | true =>
      apply Runs.bind_quiet (freezeUnit_runs hadd.wellFormed)
      rintro j s₃ _ hfreeze ⟨hfrozen, _⟩
      exact Runs.pure hfreeze.wellFormed hfrozen.has

/-- The history of appending commands to a batch one after the other. -/
def appended (i : Nat) : List Value → Store → History
  | [], _ => []
  | value :: rest, s =>
    following (append i value) s fun _ s' => (i, value.written s) :: appended i rest s'

theorem forM_append_runs (htarget : target (.batch i)) (commands : List Value) :
    ∀ s : Store, s.WellFormed → s.HoldsAll commands →
      Runs target False (appended i commands s) (commands.forM (append i)) s fun _ _ => True := by
  induction commands with
  | nil => exact fun s hwf _ => Runs.pure hwf trivial
  | cons value rest ih =>
      intro s hwf hcommands
      have hbind : Runs target False
          (following (append i value) s (fun _ _ => [(i, value.written s)]) ++
            following (append i value) s fun _ s' => appended i rest s')
          (append i value >>= fun _ => rest.forM (append i)) s fun _ _ => True :=
        Runs.bind (append_runs hwf hcommands.1 htarget) fun _ s' _ hleads _ =>
          ih s' hleads.wellFormed (hleads.grows.holdsAll rest hcommands.2)
      rw [following_append] at hbind
      exact hbind

/-- The history of making a batch of commands. -/
def batched (commands : List Value) (s : Store) : History :=
  following startBatch s fun i s' => appended i commands s'

theorem buildBatch_runs (hwf : s.WellFormed) {commands : List Value}
    (hcommands : s.HoldsAll commands) :
    Runs target False (batched commands s) (buildBatch commands) s fun v s' => s'.Holds v := by
  apply Runs.of_fresh
  have hbatch : Runs (fun ref => ¬ s.Has ref) False (batched commands s) (batchOf commands) s
      fun j s' => s'.Has (.batch j) := by
    simp only [batchOf]
    apply Runs.quiet_bind (startBatch_runs hwf)
    rintro _ s₁ _ hstart ⟨rfl, hhas⟩
    have hfresh : ¬ s.Has (.batch s.batches.length) := Nat.lt_irrefl _
    refine Runs.bind_quiet (forM_append_runs hfresh commands s₁ hstart.wellFormed
      (hstart.grows.holdsAll commands hcommands)) ?_
    intro _ s₂ _ hadd _
    exact Runs.pure hadd.wellFormed (hadd.grows.has hhas)
  exact Runs.bind_quiet hbatch fun j s' _ hleads hhas => Runs.pure hleads.wellFormed hhas

end Building

end SwayControl
