import SwayControl.Proofs.Builder.Construct

/-!
Bindings and rules. They keep frozen copies of the criteria and commands that they are given, so what
they are written as is settled when they are made: it embeds what those criteria and that command were
written as at that moment.
-/

namespace SwayControl

namespace Store

variable {s s' : Store}

/-- The builders that a held value cites are in the store. -/
theorem Holds.has_cited {value : Value} (h : s.Holds value) : ∀ ref ∈ value.cited, s.Has ref := by
  cases value with
  | builder ref =>
      cases ref with
      | unit i =>
          intro ref href
          simp only [Value.cited, List.mem_singleton] at href
          exact href ▸ h
      | _ => simp [Value.cited]
  | record form fields => exact fun ref href => (h.cited ref href).has
  | _ => simp [Value.cited]

/-- What a held value is written as does not change while no builder does. -/
theorem Leads.written_eq (h : s.Leads (fun _ => False) s') (hwf : s.WellFormed) (hinStep : s.InStep)
    (hinStep' : s'.InStep) {value : Value} (hvalue : s.Holds value) :
    value.written s' = value.written s := by
  have htext : value.commandText s'.scratch = value.commandText s.scratch := by
    rw [hinStep'.scratch_eq h.wellFormed, hinStep.scratch_eq hwf]
    exact Value.commandText_congr value fun ref href =>
      (h.frame ref (hvalue.has_cited ref href) not_false).texts_eq
  cases value with
  | text t => rfl
  | keyword w => rfl
  | _ => simpa only [Value.written] using htext

end Store

namespace Building

variable {target : Ref → Prop} {s s' : Store} {value : Value}

/-- The criteria that a rule keeps are a frozen group of the same text. -/
theorem keptCriteria_runs (hwf : s.WellFormed) :
    Runs target False [] (keptCriteria value) s fun kept s' => ∃ j, kept = .builder (.group j) ∧
      s'.Frozen (.group j) ∧ kept.readClause s'.texts = value.readClause s.texts := by
  cases value with
  | builder ref =>
      cases ref with
      | group i =>
          apply Runs.bind_quiet (freezeGroup_runs hwf)
          rintro j s' _ hleads ⟨hfrozen, hsame⟩
          refine Runs.pure hleads.wellFormed ⟨j, rfl, hfrozen, ?_⟩
          simp only [Value.readClause, hsame]
      | _ => exact Runs.of_untouched hwf (run_refuse _)
  | _ => exact Runs.of_untouched hwf (run_refuse _)

/-- The fields that a record keeps: the store has what they name, what they cite is frozen, and reading
them gives what the given fields were written as. -/
structure KeptFields (form : Form) (fields : List Value) (s : Store) (kept : List Value)
    (s' : Store) : Prop where
  holds : s'.HoldsAll kept
  cited : ∀ ref ∈ (Value.record form kept).cited, s'.Frozen ref
  text : s.InStep → ∀ f, form = .topLevel f →
    Value.readTopLevelFields s'.texts (Value.embeddedText s'.texts f kept) f kept =
      Value.readTopLevelFields s.texts ((f.commandOf fields).written s) f fields

/-- A record that is no binding and no rule keeps its fields as they are. -/
theorem keptFields_plain {form : Form} (hform : ∀ f, form = .topLevel f →
    f.targets = false ∧ f.embeds = false) (fields : List Value) :
    keptFields form fields = pure fields := by
  unfold keptFields
  split <;> first | rfl | exact absurd (hform _ rfl) (by decide)

theorem keptFields_plain_runs (hwf : s.WellFormed) {form : Form} (hform : ∀ f, form = .topLevel f →
    f.targets = false ∧ f.embeds = false) {fields : List Value} (hfields : s.HoldsAll fields) :
    Runs target False [] (keptFields form fields) s (KeptFields form fields s) := by
  rw [keptFields_plain hform]
  refine Runs.pure hwf ⟨hfields, ?_, ?_⟩
  · intro ref href
    cases form with
    | topLevel f =>
        obtain ⟨htargets, hembeds⟩ := hform f rfl
        have hclause : f.citedClause fields = [] := by
          unfold TopLevelForm.citedClause
          split <;> simp [htargets]
        have hcommand : Value.citedCommand f fields = [] := by
          cases fields <;> cases f <;> first | rfl | cases hembeds
        simp [Value.cited, hclause, hcommand] at href
    | _ => simp [Value.cited] at href
  · rintro _ f rfl
    exact Value.readTopLevelFields_congr (fun _ _ => rfl) fun hembeds =>
      absurd hembeds (by simp [(hform f rfl).2])

/-- A rule keeps its criteria, and is read with them as with those it was given. -/
theorem keptRule_runs (hwf : s.WellFormed) {f : TopLevelForm} {clause : Value} {rest : List Value}
    (hrest : s.HoldsAll rest) (hembeds : f.embeds = false)
    (hread : ∀ (texts texts' : Ref → String) (command command' : Reading String) (kept : Value),
      kept.readClause texts' = clause.readClause texts →
        Value.readTopLevelFields texts' command' f (kept :: rest) =
          Value.readTopLevelFields texts command f (clause :: rest)) :
    Runs target False [] (do return (← keptCriteria clause) :: rest) s
      (KeptFields (.topLevel f) (clause :: rest) s) := by
  apply Runs.bind_quiet (keptCriteria_runs hwf)
  rintro kept s' _ hleads ⟨j, rfl, hfrozen, hclause⟩
  refine Runs.pure hleads.wellFormed ⟨⟨hfrozen.has, hleads.grows.holdsAll rest hrest⟩, ?_, ?_⟩
  · intro ref href
    have hcommand : Value.citedCommand f (.builder (.group j) :: rest) = [] := by
      cases f <;> first | rfl | cases hembeds
    simp only [Value.cited, hcommand, List.append_nil, TopLevelForm.citedClause] at href
    split at href
    · exact List.mem_singleton.mp href ▸ hfrozen
    · cases href
  · rintro _ f' hf
    cases hf
    exact hread _ _ _ _ _ hclause

/-- A binding keeps its command, and is read with it as with what it was given. -/
theorem keptBinding_runs (before after : List Value) (hwf : s.WellFormed) {f : TopLevelForm}
    {command : Value} (hbefore : s.HoldsAll before) (hcommand : s.Holds command)
    (hafter : s.HoldsAll after)
    (hcited : ∀ kept,
      (Value.record (.topLevel f) (before ++ kept :: after)).cited = kept.cited)
    (hread : ∀ (texts texts' : Ref → String) (kept : Value) (text : Reading String),
      kept.commandText texts' = text →
        Value.readTopLevelFields texts' (Value.embeddedText texts' f (before ++ kept :: after)) f
            (before ++ kept :: after) =
          Value.readTopLevelFields texts text f (before ++ command :: after))
    (hcommandOf : f.commandOf (before ++ command :: after) = command) :
    Runs target False [] (do return before ++ (← entry command) :: after) s
      (KeptFields (.topLevel f) (before ++ command :: after) s) := by
  apply Runs.bind_quiet (entry_runs hwf hcommand)
  intro kept s' _ hleads hkept
  refine Runs.pure hleads.wellFormed ⟨?_, ?_, ?_⟩
  · rw [Store.holdsAll_iff] at hbefore hafter ⊢
    intro v hv
    rcases List.mem_append.mp hv with hv | hv
    · exact hleads.grows.holds v (hbefore v hv)
    · rcases List.mem_cons.mp hv with rfl | hv
      · exact hkept.holds
      · exact hleads.grows.holds v (hafter v hv)
  · rw [hcited]
    exact hkept.cited
  · rintro hinStep f' hf
    cases hf
    rw [hcommandOf]
    exact hread _ _ kept _ (hkept.text hinStep)

/-- A binding cites what its command cites, whatever its first field is. -/
theorem cited_of_embeds {f : TopLevelForm} {first : Value} {rest : List Value}
    (htargets : f.targets = false) :
    (Value.record (.topLevel f) (first :: rest)).cited =
      Value.citedCommand f (first :: rest) := by
  have hclause : f.citedClause (first :: rest) = [] := by
    unfold TopLevelForm.citedClause
    split <;> simp [htargets]
  simp only [Value.cited, hclause, List.nil_append]

theorem keptFields_forWindow_runs (hwf : s.WellFormed) {clause command : Value}
    (hcommand : s.Holds command) :
    Runs target False [] (keptFields (.topLevel .forWindow) [clause, command]) s
      (KeptFields (.topLevel .forWindow) [clause, command] s) := by
  suffices h : Runs (fun _ => False) False [] (keptFields (.topLevel .forWindow) [clause, command]) s
      (KeptFields (.topLevel .forWindow) [clause, command] s) from
    h.mono (fun _ _ ht => ht.elim) (fun hd => hd) fun _ _ _ hp => hp
  apply Runs.bind_quiet (keptCriteria_runs hwf).and_inStep
  rintro _ s₁ _ hfreeze ⟨⟨j, rfl, hfrozen, hclause⟩, hstep⟩
  apply Runs.bind_quiet (entry_runs hfreeze.wellFormed (hfreeze.grows.holds _ hcommand))
  intro kept s₂ _ hleads hkept
  have hfrozen' := hleads.grows.frozen hfrozen
  refine Runs.pure hleads.wellFormed ⟨⟨hfrozen'.has, hkept.holds, trivial⟩, ?_, ?_⟩
  · intro ref href
    simp only [Value.cited, Value.citedCommand, Value.citedAt, List.mem_append] at href
    rcases href with href | href
    · exact List.mem_singleton.mp href ▸ hfrozen'
    · exact hkept.cited ref href
  · rintro hinStep f hf
    cases hf
    -- Freezing the criteria touched no builder, and so nothing that the command is written from.
    have htext : kept.commandText s₂.texts = command.written s :=
      (hkept.text (hstep hinStep)).trans
        (hfreeze.written_eq hwf hinStep (hstep hinStep) hcommand)
    have hkeptClause : (Value.builder (.group j)).readClause s₂.texts =
        clause.readClause s.texts := by
      rw [← hclause]
      simp only [Value.readClause, (hleads.grows.same_of_frozen hfrozen).texts_eq]
    simp only [Value.readTopLevelFields, Value.embeddedText, Value.embeddedAt, htext, hkeptClause,
      TopLevelForm.commandOf]

theorem keptFields_runs (hwf : s.WellFormed) {form : Form} {fields : List Value}
    (hfields : s.HoldsAll fields) (hlength : fields.length = form.signature.fields.length) :
    Runs target False [] (keptFields form fields) s (KeptFields form fields s) := by
  by_cases hplain : ∀ f, form = .topLevel f → f.targets = false ∧ f.embeds = false
  · exact keptFields_plain_runs hwf hplain hfields
  obtain ⟨f, hf⟩ := Classical.not_forall.mp hplain
  obtain ⟨rfl, hspecial⟩ := Classical.not_imp.mp hf
  -- There are as many fields as the form has, so each is at its place.
  cases f with
  | assignToWorkspace | assignToOutput =>
      rcases fields with _ | ⟨_, _ | ⟨_, _ | ⟨_, _⟩⟩⟩
      case cons.cons.nil =>
        exact keptRule_runs hwf hfields.2 rfl fun _ _ _ _ _ hclause => by
          simp only [Value.readTopLevelFields, hclause]
      all_goals cases hlength
  | noFocus =>
      rcases fields with _ | ⟨_, _ | ⟨_, _⟩⟩
      case cons.nil =>
        exact keptRule_runs hwf hfields.2 rfl fun _ _ _ _ _ hclause => by
          simp only [Value.readTopLevelFields, hclause]
      all_goals cases hlength
  | bindsym | bindcode =>
      rcases fields with _ | ⟨key, _ | ⟨_, _ | ⟨flags, _ | ⟨_, _⟩⟩⟩⟩
      case cons.cons.cons.nil =>
        exact keptBinding_runs [key] [flags] hwf ⟨hfields.1, trivial⟩ hfields.2.1 hfields.2.2
          (fun _ => cited_of_embeds rfl) (fun _ _ _ _ htext => by rw [← htext]; rfl) rfl
      all_goals cases hlength
  | bindswitch =>
      rcases fields with _ | ⟨switch, _ | ⟨state, _ | ⟨_, _ | ⟨flags, _ | ⟨_, _⟩⟩⟩⟩⟩
      case cons.cons.cons.cons.nil =>
        exact keptBinding_runs [switch, state] [flags] hwf ⟨hfields.1, hfields.2.1, trivial⟩
          hfields.2.2.1 hfields.2.2.2 (fun _ => cited_of_embeds rfl)
          (fun _ _ _ _ htext => by rw [← htext]; rfl) rfl
      all_goals cases hlength
  | forWindow =>
      rcases fields with _ | ⟨_, _ | ⟨_, _ | ⟨_, _⟩⟩⟩
      case cons.cons.nil => exact keptFields_forWindow_runs hwf hfields.2.1
      all_goals cases hlength
  | _ => exact absurd ⟨rfl, rfl⟩ hspecial

/-- Making a record of given fields. -/
theorem record_runs (hwf : s.WellFormed) {form : Form} {fields : List Value}
    (hfields : s.HoldsAll fields) (hlength : fields.length = form.signature.fields.length) :
    Runs target False [] (record form fields) s fun v s' =>
      ∃ kept, v = .record form kept ∧ KeptFields form fields s kept s' := by
  unfold record
  cases checkRecord form fields with
  | error fault => exact Runs.of_untouched hwf (run_throw_fault fault)
  | ok _ =>
      apply Runs.bind_quiet (keptFields_runs hwf hfields hlength)
      intro kept s' _ hleads hkept
      exact Runs.pure hleads.wellFormed ⟨kept, rfl, hkept⟩

theorem record_holds_runs (hwf : s.WellFormed) {form : Form} {fields : List Value}
    (hfields : s.HoldsAll fields) (hlength : fields.length = form.signature.fields.length) :
    Runs target False [] (record form fields) s fun v s' => s'.Holds v :=
  (record_runs hwf hfields hlength).imp fun _ _ _ ⟨_, hv, hkept⟩ =>
    hv ▸ Store.holds_record hkept.holds hkept.cited

/-- What a value cites is frozen as soon as its text is settled, so what it is written as stays. -/
theorem written_settled (hwf : s.WellFormed) (hwf' : s'.WellFormed) (hinStep : s.InStep)
    (hinStep' : s'.InStep) (hgrows : s.Grows s') {form : Form} {fields : List Value}
    (hcited : ∀ ref ∈ (Value.record form fields).cited, s.Frozen ref) :
    (Value.record form fields).written s' = (Value.record form fields).written s := by
  simp only [Value.written, hinStep.scratch_eq hwf, hinStep'.scratch_eq hwf']
  exact hgrows.commandText_eq hcited

/-- A binding or rule is written with what its criteria and its command were written as when they were
given to it, now and in every later store in step. -/
theorem record_written (hwf : s.WellFormed) (hinStep : s.InStep) {f : TopLevelForm}
    {fields : List Value} (hfields : s.HoldsAll fields)
    (hlength : fields.length = (Form.topLevel f).signature.fields.length)
    (hrun : (record (.topLevel f) fields).run s = .ok value s') {s'' : Store}
    (hgrows : s'.Grows s'') (hwf'' : s''.WellFormed) (hinStep'' : s''.InStep) :
    value.written s'' = TopLevel.render <$>
      Value.readTopLevelFields s.scratch ((f.commandOf fields).written s) f fields := by
  have hruns : Runs (fun _ => False) False [] (record (.topLevel f) fields) s _ :=
    record_runs hwf hfields hlength
  simp only [Runs, hrun] at hruns
  obtain ⟨hleads, hkeeps, kept, rfl, hkept⟩ := hruns
  have hinStep' := (hkeeps not_false hinStep).inStep
  rw [written_settled hleads.wellFormed hwf'' hinStep' hinStep'' hgrows hkept.cited]
  have hwritten : (Value.record (.topLevel f) kept).written s' = TopLevel.render <$>
      Value.readTopLevelFields s'.texts (Value.embeddedText s'.texts f kept) f kept := by
    rw [← hinStep'.scratch_eq hleads.wellFormed]
    rfl
  rw [hwritten, hkept.text hinStep f rfl, hinStep.scratch_eq hwf]

end Building

end SwayControl
