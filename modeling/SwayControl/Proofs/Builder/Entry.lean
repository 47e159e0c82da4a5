import SwayControl.Proofs.Builder.Guarantee

/-!
Copies and entries. A copy of a unit gets a copy of its clause, a frozen copy a second one; no clause is
ever shared. What a batch, a binding or a rule keeps of a command is settled for good: it cites frozen
units only, and its text is the text that the command had when it was kept.
-/

namespace SwayControl

namespace Building

variable {target : Ref → Prop} {s s' : Store} {i : Nat} {value : Value}

/-- A new unit with what a unit without a clause holds. -/
theorem bareCopy_leads (target : Ref → Prop) (hwf : s.WellFormed) {u : TargetedUnit}
    (hu : s.units[i]? = some u) (hc : u.clause = none) (frozen : Bool) :
    s.Leads target (s.addUnit ⟨none, u.commands, u.text, frozen⟩) ∧
      (s.InStep → s.Keeps [] (s.addUnit ⟨none, u.commands, u.text, frozen⟩)) := by
  have hsound : s.SoundUnit ⟨none, u.commands, u.text, frozen⟩ :=
    ⟨(hwf.units i u hu).held, (hwf.units i u hu).written, fun c hc' => by cases hc'⟩
  have hleads : s.Leads target (s.addUnit ⟨none, u.commands, u.text, frozen⟩) :=
    hwf.leads_addUnit hsound fun c hc' => by cases hc'
  refine ⟨hleads, fun hinStep => ?_⟩
  have htext := hinStep.units i u hu
  rw [hc] at htext
  exact (hinStep.addUnit hwf hsound (fun c hc' => by cases hc') htext).keeps hwf hleads.grows rfl

/-- A new unit with what a unit with a clause holds, and a copy of that clause for its own. -/
theorem targetedCopy_leads (target : Ref → Prop) (hwf : s.WellFormed) {u : TargetedUnit} {c : Nat}
    {g : CriteriaGroup} (hu : s.units[i]? = some u) (hc : u.clause = some c)
    (hg : s.groups[c]? = some g) (frozen : Bool) :
    s.Leads target ((s.addGroup ⟨g.criteria, g.text, frozen⟩).addUnit
        ⟨some s.groups.length, u.commands, u.text, frozen⟩) ∧
      (s.InStep → s.Keeps [] ((s.addGroup ⟨g.criteria, g.text, frozen⟩).addUnit
        ⟨some s.groups.length, u.commands, u.text, frozen⟩)) := by
  have hfresh : ¬ s.Has (.group s.groups.length) := Nat.lt_irrefl _
  have hgroup := soundGroup_copy hwf hg frozen
  have hadd : s.Leads (fun ref => target ref ∨ ¬ s.Has ref)
      (s.addGroup ⟨g.criteria, g.text, frozen⟩) := hwf.leads_addGroup hgroup
  have hnew : (s.addGroup ⟨g.criteria, g.text, frozen⟩).groups[s.groups.length]? =
      some ⟨g.criteria, g.text, frozen⟩ := List.getElem?_concat_length
  have hloose : (s.addGroup ⟨g.criteria, g.text, frozen⟩).Loose s.groups.length :=
    hwf.loose_of_fresh hfresh
  have hsound : (s.addGroup ⟨g.criteria, g.text, frozen⟩).SoundUnit
      ⟨some s.groups.length, u.commands, u.text, frozen⟩ :=
    ⟨hadd.grows.holdsAll _ (hwf.units i u hu).held, (hwf.units i u hu).written, fun d hd => by
      cases hd
      exact ⟨_, hnew, rfl⟩⟩
  have hunit : (s.addGroup ⟨g.criteria, g.text, frozen⟩).Leads (fun ref => target ref ∨ ¬ s.Has ref)
      ((s.addGroup ⟨g.criteria, g.text, frozen⟩).addUnit
        ⟨some s.groups.length, u.commands, u.text, frozen⟩) :=
    hadd.wellFormed.leads_addUnit hsound fun d hd => by
      cases hd
      exact ⟨hloose, Or.inr hfresh⟩
  have hleads := hadd.trans hunit
  refine ⟨hleads.mono fun ref href ht => ht.resolve_right (not_not_intro href), fun hinStep => ?_⟩
  have hadded := hinStep.addGroup hwf hgroup (hinStep.groups c g hg)
  have htext := hinStep.units i u hu
  simp only [unitText, hc, Option.elim_some, Store.texts, hg] at htext
  refine (hadded.addUnit hadd.wellFormed hsound (fun d hd => ?_) ?_).keeps hwf hleads.grows rfl
  · cases hd
    exact hloose
  · simpa only [unitText, Option.elim_some, Store.texts, hnew] using htext

theorem copyUnit_runs (hwf : s.WellFormed) :
    Runs target False [] (copyUnit i) s fun j s' => s'.Has (.unit j) := by
  have hlast (t : Store) (u : TargetedUnit) : (t.addUnit u).Has (.unit t.units.length) :=
    Store.has_unit List.getElem?_concat_length
  cases hu : s.units[i]? with
  | none => exact Runs.of_untouched hwf (run_copyUnit_none hu)
  | some u =>
      cases hc : u.clause with
      | none =>
          obtain ⟨hleads, hkeeps⟩ := bareCopy_leads target hwf hu hc false
          exact Runs.of_ok (run_copyUnit_bare hu hc) hleads (fun _ => hkeeps) (hlast _ _)
      | some c =>
          obtain ⟨g, hg, _⟩ := (hwf.units i u hu).clause c hc
          obtain ⟨hleads, hkeeps⟩ := targetedCopy_leads target hwf hu hc hg false
          exact Runs.of_ok (run_copyUnit_clause hu hc hg) hleads (fun _ => hkeeps)
            (hlast (s.addGroup _) _)

/-- Freezing a unit gives a frozen unit of the same text. -/
theorem freezeUnit_runs (hwf : s.WellFormed) :
    Runs target False [] (freezeUnit i) s fun j s' =>
      s'.Frozen (.unit j) ∧ s'.texts (.unit j) = s.texts (.unit i) := by
  cases hu : s.units[i]? with
  | none => exact Runs.of_untouched hwf (run_freezeUnit_none hu)
  | some u =>
      have hpost (t : Store) (clause : Option Nat) (ht : t.units = s.units) :
          (t.addUnit ⟨clause, u.commands, u.text, true⟩).Frozen (.unit s.units.length) ∧
            (t.addUnit ⟨clause, u.commands, u.text, true⟩).texts (.unit s.units.length) =
              s.texts (.unit i) := by
        have hnew : (t.addUnit ⟨clause, u.commands, u.text, true⟩).units[s.units.length]? =
            some ⟨clause, u.commands, u.text, true⟩ := by
          rw [← ht]
          exact List.getElem?_concat_length
        exact ⟨⟨_, hnew, rfl⟩, by simp only [Store.texts, hnew, hu, Option.elim_some]⟩
      cases hfrozen : u.frozen with
      | true =>
          exact Runs.of_ok (run_freezeUnit_frozen hu hfrozen) hwf.leads
            (fun _ hinStep => Store.Keeps.refl hinStep) ⟨⟨u, hu, hfrozen⟩, rfl⟩
      | false =>
          cases hc : u.clause with
          | none =>
              obtain ⟨hleads, hkeeps⟩ := bareCopy_leads target hwf hu hc true
              exact Runs.of_ok (run_freezeUnit_bare hu hfrozen hc) hleads (fun _ => hkeeps)
                (hpost s none rfl)
          | some c =>
              obtain ⟨g, hg, _⟩ := (hwf.units i u hu).clause c hc
              have hcopy := soundGroup_copy hwf hg false
              have hadd : s.Leads target (s.addGroup ⟨g.criteria, g.text, false⟩) :=
                hwf.leads_addGroup hcopy
              have hg' : (s.addGroup ⟨g.criteria, g.text, false⟩).groups[c]? = some g := by
                have hlt : c < s.groups.length := Store.has_group hg
                exact (List.getElem?_append_left hlt).trans hg
              obtain ⟨hleads, hkeeps⟩ :=
                targetedCopy_leads target hadd.wellFormed hu hc hg' true
              have hlength : (s.addGroup ⟨g.criteria, g.text, false⟩).groups.length =
                  s.groups.length + 1 := List.length_append
              rw [hlength] at hleads hkeeps
              refine Runs.of_ok (run_freezeUnit_clause hu hfrozen hc hg) (hadd.trans hleads) ?_
                (hpost _ _ rfl)
              intro _ hinStep
              have hadded := hinStep.addGroup hwf hcopy (hinStep.groups c g hg)
              exact (hadded.keeps hwf hadd.grows rfl).trans (hkeeps hadded)

/-- A unit made of one sub-command has the text of that sub-command. -/
theorem unitOf_runs (hwf : s.WellFormed) (hvalue : s.Holds value) :
    Runs target False [] (unitOf value) s fun j s' =>
      ∃ command, value.readSubCommand = .ok command ∧ s'.texts (.unit j) = command.render := by
  apply Runs.of_fresh
  simp only [unitOf]
  apply Runs.bind_quiet (startUnit_runs hwf)
  rintro _ s₁ _ hstart ⟨rfl, hnew⟩
  have hfresh : ¬ s.Has (.unit s.units.length) := Nat.lt_irrefl _
  refine Runs.bind_quiet
    (addCommand_runs hstart.wellFormed (hstart.grows.holds value hvalue) hfresh) ?_
  rintro _ s₂ _ hadd ⟨u, command, hu, hread, hu'⟩
  refine Runs.pure hadd.wellFormed ⟨command, hread, ?_⟩
  have hempty : u = ⟨none, [], "", false⟩ := Option.some.inj (hu.symm.trans hnew)
  simp only [Store.texts, hu', Option.elim_some, hempty, TargetedUnit.separated, List.isEmpty_nil,
    if_true, String.empty_append]

/-- A kept command: the store has what it names, it cites frozen builders only, and its text is what the
command was written as. -/
structure Kept (s : Store) (value entry : Value) (s' : Store) : Prop where
  holds : s'.Holds entry
  cited : ∀ ref ∈ entry.cited, s'.Frozen ref
  text : s.InStep → entry.commandText s'.texts = value.written s

/-- A unit in which a command is frozen is kept of it. -/
theorem frozenUnit_runs (hwf' : s'.WellFormed)
    (htext : s.InStep → value.written s = .ok (s'.texts (.unit i))) :
    Runs target False [] (do return .builder (.unit (← freezeUnit i))) s' fun entry s'' =>
      Kept s value entry s'' := by
  apply Runs.bind_quiet (freezeUnit_runs hwf')
  rintro j s'' _ hleads ⟨hfrozen, hsame⟩
  refine Runs.pure hleads.wellFormed ⟨hfrozen.has, ?_, ?_⟩
  · intro ref href
    simp only [Value.cited, List.mem_singleton] at href
    exact href ▸ hfrozen
  · intro hinStep
    rw [htext hinStep, ← hsame]
    rfl

/-- A value that is kept as it is. -/
theorem keptAsIs_runs (hwf : s.WellFormed) (hvalue : s.Holds value)
    (hcited : ∀ ref ∈ value.cited, s.Frozen ref)
    (hwritten : value.written s = value.commandText s.scratch) :
    Runs target False [] (pure value) s fun entry s' => Kept s value entry s' :=
  Runs.pure hwf ⟨hvalue, hcited, fun hinStep => by rw [hwritten, hinStep.scratch_eq hwf]⟩

theorem entry_runs (hwf : s.WellFormed) (hvalue : s.Holds value) :
    Runs target False [] (entry value) s fun entry s' => Kept s value entry s' := by
  cases value with
  | builder ref =>
      cases ref with
      | unit i =>
          refine frozenUnit_runs hwf fun hinStep => ?_
          rw [← hinStep.scratch_eq hwf]
          rfl
      | group i => exact keptAsIs_runs hwf hvalue (by simp [Value.cited]) rfl
      | batch i => exact keptAsIs_runs hwf hvalue (by simp [Value.cited]) rfl
  | record form fields =>
      cases form with
      | subCommand form =>
          apply Runs.bind_quiet (unitOf_runs hwf hvalue)
          rintro j s' _ hleads ⟨command, hread, htext⟩
          refine frozenUnit_runs hleads.wellFormed fun _ => ?_
          have hread' : Value.readSubCommandFields form fields = .ok command := hread
          simp only [Value.written, Value.commandText, hread', htext]
          rfl
      | _ => exact keptAsIs_runs hwf hvalue hvalue.cited rfl
  | text t =>
      exact Runs.pure hwf ⟨by simp [Value.raw, Store.Holds, Store.HoldsAll],
        by simp [Value.raw, Value.cited], fun _ => rfl⟩
  | keyword w =>
      exact Runs.pure hwf ⟨by simp [Value.raw, Store.Holds, Store.HoldsAll],
        by simp [Value.raw, Value.cited], fun _ => rfl⟩
  | _ => exact keptAsIs_runs hwf hvalue (by simp [Value.cited]) rfl

theorem startBatch_runs (hwf : s.WellFormed) :
    Runs target False [] startBatch s fun j s' => j = s.batches.length ∧ s'.Has (.batch j) := by
  have hsound : s.SoundBatch ⟨[], ""⟩ := ⟨trivial, fun entry hentry => by cases hentry⟩
  have hleads : s.Leads target (s.addBatch ⟨[], ""⟩) := hwf.leads_addBatch hsound
  refine Runs.of_ok run_startBatch hleads ?_
    ⟨rfl, Store.has_batch List.getElem?_concat_length⟩
  intro _ hinStep
  refine ⟨hinStep.addBatch hwf hsound rfl, fun j => ?_⟩
  rw [History.of_nil, List.append_nil]
  -- An index past the end stood for no entries before, and stands for none now.
  rcases Nat.lt_trichotomy j s.batches.length with hlt | heq | hgt
  · exact hleads.grows.entryTexts_eq hwf (List.getElem?_append_left hlt)
  · subst heq
    simp only [Store.entryTexts, Store.addBatch, List.getElem?_concat_length,
      List.getElem?_eq_none (Nat.le_refl _)]
    rfl
  · have hnone : s.batches[j]? = none := List.getElem?_eq_none (Nat.le_of_lt hgt)
    have hnone' : (s.addBatch ⟨[], ""⟩).batches[j]? = none :=
      List.getElem?_eq_none (by simpa [Store.addBatch] using Nat.succ_le_of_lt hgt)
    simp only [Store.entryTexts, hnone, hnone']
    rfl

/-- A separator put behind the commands of a batch. -/
theorem separate_leads (target : Ref → Prop) (hwf : s.WellFormed) {b : Batch}
    (hb : s.batches[i]? = some b) (htarget : target (.batch i)) :
    s.Leads target (s.setBatch i b.separated) := by
  have hsound := hwf.batches i b hb
  refine hwf.leads_setBatch hb ⟨?_, b.separated_text⟩ ⟨?_, ?_⟩ htarget
  · exact b.separated_commands ▸ List.prefix_refl _
  · rw [b.separated_commands]
    exact hsound.held
  · rw [b.separated_commands]
    exact hsound.cited

/-- A settled command put behind those of a batch. -/
theorem putEntry_leads (target : Ref → Prop) (hwf : s.WellFormed) {b : Batch} {kept : Value}
    {text : String} (hb : s.batches[i]? = some b) (hholds : s.Holds kept)
    (hcited : ∀ ref ∈ kept.cited, s.Frozen ref) (htext : kept.commandText s.texts = .ok text)
    (htarget : target (.batch i)) :
    s.Leads target (s.setBatch i ⟨b.commands ++ [kept], b.separated.text ++ text⟩) ∧
      (s.InStep → s.Keeps [(i, .ok text)]
        (s.setBatch i ⟨b.commands ++ [kept], b.separated.text ++ text⟩)) := by
  have hi : i < s.batches.length := Store.has_batch hb
  have hgrow : b.Grows ⟨b.commands ++ [kept], b.separated.text ++ text⟩ := by
    obtain ⟨rest, hrest⟩ := b.separated_text
    exact ⟨List.prefix_append _ _, rest ++ text, by rw [hrest, String.append_assoc]⟩
  have hsound : s.SoundBatch ⟨b.commands ++ [kept], b.separated.text ++ text⟩ := by
    refine ⟨(hwf.batches i b hb).held.concat hholds, fun entry hentry => ?_⟩
    rcases List.mem_append.mp hentry with hold | hnew
    · exact (hwf.batches i b hb).cited entry hold
    · exact List.mem_singleton.mp hnew ▸ hcited
  have hleads : s.Leads target (s.setBatch i ⟨b.commands ++ [kept], b.separated.text ++ text⟩) :=
    hwf.leads_setBatch hb hgrow hsound htarget
  refine ⟨hleads, fun hinStep => ⟨?_, fun j => ?_⟩⟩
  · exact hinStep.setBatch hwf hleads.grows hsound (batchText_concat (hinStep.batches i b hb) htext)
  · by_cases hij : i = j
    · subst hij
      have hkept := hleads.grows.commandText_eq hcited
      have hold := List.map_congr_left fun entry hentry =>
        hleads.grows.commandText_eq ((hwf.batches i b hb).cited entry hentry)
      simp only [Store.entryTexts, Store.setBatch, List.getElem?_set_self hi, Option.elim_some, hb]
      simp only [Store.setBatch] at hkept hold
      simp [History.of, hkept, hold, htext]
    · rw [hleads.grows.entryTexts_eq hwf (List.getElem?_set_ne hij)]
      simp [History.of, hij]

theorem append_runs (hwf : s.WellFormed) (hvalue : s.Holds value) (htarget : target (.batch i)) :
    Runs target False (following (append i value) s fun _ _ => [(i, value.written s)])
      (append i value) s fun _ _ => True := by
  have hentry : Runs target False [] (entry value) s fun kept s' => Kept s value kept s' :=
    entry_runs hwf hvalue
  unfold Runs at hentry
  cases hrun : (entry value).run s with
  | error fault s' =>
      simp only [hrun] at hentry
      have happend : (append i value).run s = .error fault s' := by
        simp only [append]
        rw [run_bind_error hrun]
      rw [following_error happend]
      exact Runs.of_error happend hentry.1 hentry.2
  | ok kept s' =>
      simp only [hrun] at hentry
      obtain ⟨hleads, hkeeps, hkept⟩ := hentry
      cases hb : s'.batches[i]? with
      | none =>
          have happend : (append i value).run s =
              .error (.refused ⟨.field, .builder (.batch i)⟩) s' := by
            simp only [append]
            rw [run_bind_ok hrun, run_bind_error (run_batch_none hb)]
          exact Runs.of_refused happend hleads
      | some b =>
          have hsep := separate_leads target hleads.wellFormed hb htarget
          -- The separator that is written first belongs to no command, so it changes no text of one.
          have htext : kept.commandText (s'.setBatch i b.separated).texts =
              kept.commandText s'.texts := hsep.grows.commandText_eq hkept.cited
          cases hread : kept.commandText s'.texts with
          | error refusal =>
              exact Runs.of_refused (run_append_error hrun hb (htext.trans hread)) (hleads.trans hsep)
          | ok text =>
              have happend := run_append_ok hrun hb (htext.trans hread)
              obtain ⟨hput, hkeeps'⟩ := putEntry_leads target hleads.wellFormed hb
                hkept.holds hkept.cited hread htarget
              refine Runs.of_ok happend (hleads.trans hput) ?_ trivial
              intro _ hinStep
              rw [following_ok happend, ← hkept.text hinStep, hread]
              exact (hkeeps not_false hinStep).trans (hkeeps' (hkeeps not_false hinStep).inStep)

end Building

end SwayControl
