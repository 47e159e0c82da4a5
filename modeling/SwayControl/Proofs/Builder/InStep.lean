import SwayControl.Proofs.Builder.Update

/-!
Texts against parts. A builder holds a text beside the parts that the text is made of; it is in step if
writing it from its parts gives that text. The scratch text of a builder looks at parts only: at the
criteria of a group, at the criteria and sub-commands of a unit, at the scratch texts of the units of a
batch. In a store in step the texts are the scratch texts.
-/

namespace SwayControl

/-- The text that was read, and nothing where a part was refused. -/
def legible : Reading String → String
  | .ok text => text
  | .error _ => ""

namespace Store

/-- The texts of all groups, written from their criteria. -/
def scratchClauses (s : Store) : Ref → String
  | .group i => (s.groups[i]?).elim "" fun g => legible (clauseText g.criteria)
  | _ => ""

/-- The texts of all groups and units, written from criteria and sub-commands. -/
def scratchUnits (s : Store) : Ref → String
  | .unit i =>
    (s.units[i]?).elim "" fun u => legible (unitText s.scratchClauses u.clause u.commands)
  | ref => s.scratchClauses ref

/-- The texts of all builders, written from criteria and sub-commands alone. -/
def scratch (s : Store) : Ref → String
  | .batch i => (s.batches[i]?).elim "" fun b => legible (batchText s.scratchUnits b.commands)
  | ref => s.scratchUnits ref

/-- Whether every builder holds the text that its parts make. -/
structure InStep (s : Store) : Prop where
  groups : ∀ (i : Nat) g, s.groups[i]? = some g → clauseText g.criteria = .ok g.text
  units : ∀ (i : Nat) u, s.units[i]? = some u → unitText s.texts u.clause u.commands = .ok u.text
  batches : ∀ (i : Nat) b, s.batches[i]? = some b → batchText s.texts b.commands = .ok b.text

end Store

theorem unitText_congr {texts texts' : Ref → String} {clause : Option Nat} {commands : List Value}
    (h : ∀ c, clause = some c → texts (.group c) = texts' (.group c)) :
    unitText texts clause commands = unitText texts' clause commands := by
  cases clause with
  | none => rfl
  | some c => simp only [unitText, Option.elim_some, h c rfl]

theorem mapM_commandText_congr {texts texts' : Ref → String} {commands : List Value}
    (h : ∀ entry ∈ commands, entry.commandText texts = entry.commandText texts') :
    commands.mapM (Value.commandText texts) = commands.mapM (Value.commandText texts') := by
  induction commands with
  | nil => rfl
  | cons entry rest ih =>
      simp only [List.mapM_cons, h entry List.mem_cons_self,
        ih fun e he => h e (List.mem_cons_of_mem _ he)]

theorem batchText_congr {texts texts' : Ref → String} {commands : List Value}
    (h : ∀ entry ∈ commands, ∀ ref ∈ entry.cited, texts ref = texts' ref) :
    batchText texts commands = batchText texts' commands := by
  simp only [batchText]
  rw [mapM_commandText_congr fun entry hentry => Value.commandText_congr entry (h entry hentry)]

namespace Store

variable {s s' : Store}

theorem inStep_empty : Store.empty.InStep where
  groups i g h := by simp [empty] at h
  units i u h := by simp [empty] at h
  batches i b h := by simp [empty] at h

theorem InStep.scratchClauses_eq (h : s.InStep) (i : Nat) :
    s.scratchClauses (.group i) = s.texts (.group i) := by
  simp only [scratchClauses, texts]
  cases hg : s.groups[i]? with
  | none => rfl
  | some g => simp only [Option.elim_some, h.groups i g hg, legible]

theorem InStep.scratchUnits_eq (h : s.InStep) (i : Nat) :
    s.scratchUnits (.unit i) = s.texts (.unit i) := by
  simp only [scratchUnits, texts]
  cases hu : s.units[i]? with
  | none => rfl
  | some u =>
      have hclause : unitText s.scratchClauses u.clause u.commands = .ok u.text := by
        rw [unitText_congr fun c _ => h.scratchClauses_eq c]
        exact h.units i u hu
      simp only [Option.elim_some, hclause, legible]

/-- In a store in step every builder holds its scratch text. -/
theorem InStep.scratch_eq (h : s.InStep) (hwf : s.WellFormed) : s.scratch = s.texts := by
  funext ref
  cases ref with
  | group i => exact h.scratchClauses_eq i
  | unit i => exact h.scratchUnits_eq i
  | batch i =>
      simp only [scratch, texts]
      cases hb : s.batches[i]? with
      | none => rfl
      | some b =>
          have hentries : batchText s.scratchUnits b.commands = .ok b.text := by
            rw [← h.batches i b hb]
            apply batchText_congr
            intro entry hentry ref href
            have hfrozen := (hwf.batches i b hb).cited entry hentry ref href
            cases ref with
            | group c => exact h.scratchClauses_eq c
            | unit j => exact h.scratchUnits_eq j
            | batch j => exact hfrozen.elim
          simp only [Option.elim_some, hentries, legible]

/-- A store that another in step grew into is in step if its new and changed builders are, and if no unit
that stayed has a clause with another text. -/
theorem InStep.grown (h : s.InStep) (hwf : s.WellFormed) (hgrows : s.Grows s')
    (hgroups : ∀ (i : Nat) g, s'.groups[i]? = some g →
      s.groups[i]? = some g ∨ clauseText g.criteria = .ok g.text)
    (hunits : ∀ (i : Nat) u, s'.units[i]? = some u →
      (s.units[i]? = some u ∧ ∀ c, u.clause = some c → s'.texts (.group c) = s.texts (.group c)) ∨
        unitText s'.texts u.clause u.commands = .ok u.text)
    (hbatches : ∀ (i : Nat) b, s'.batches[i]? = some b →
      s.batches[i]? = some b ∨ batchText s'.texts b.commands = .ok b.text) : s'.InStep where
  groups i g hg := by
    rcases hgroups i g hg with hold | hnew
    · exact h.groups i g hold
    · exact hnew
  units i u hu := by
    rcases hunits i u hu with ⟨hold, hclause⟩ | hnew
    · rw [unitText_congr hclause]
      exact h.units i u hold
    · exact hnew
  batches i b hb := by
    rcases hbatches i b hb with hold | hnew
    · rw [← h.batches i b hold]
      apply batchText_congr
      intro entry hentry ref href
      exact (hgrows.same_of_frozen ((hwf.batches i b hold).cited entry hentry ref href)).texts_eq
    · exact hnew

theorem InStep.addGroup (h : s.InStep) (hwf : s.WellFormed) {g : CriteriaGroup}
    (hsound : s.SoundGroup g) (htext : clauseText g.criteria = .ok g.text) :
    (s.addGroup g).InStep := by
  have hleads : s.Leads (fun _ => False) (s.addGroup g) := hwf.leads_addGroup hsound
  refine h.grown hwf hleads.grows ?_ ?_ fun _ _ hb => Or.inl hb
  · intro i x hx
    rcases getElem?_concat_cases hx with hold | ⟨_, rfl⟩
    · exact Or.inl hold
    · exact Or.inr htext
  · intro i u hu
    exact Or.inl ⟨hu, fun c hc =>
      (hleads.frame _ (hwf.has_clause (i := i) hu hc) not_false).texts_eq⟩

theorem InStep.addUnit (h : s.InStep) (hwf : s.WellFormed) {u : TargetedUnit}
    (hsound : s.SoundUnit u) (hloose : ∀ c, u.clause = some c → s.Loose c)
    (htext : unitText s.texts u.clause u.commands = .ok u.text) : (s.addUnit u).InStep := by
  have hleads : s.Leads (fun _ => True) (s.addUnit u) :=
    hwf.leads_addUnit hsound fun c hc => ⟨hloose c hc, trivial⟩
  refine h.grown hwf hleads.grows (fun _ _ hg => Or.inl hg) ?_ fun _ _ hb => Or.inl hb
  intro i x hx
  rcases getElem?_concat_cases hx with hold | ⟨_, rfl⟩
  · exact Or.inl ⟨hold, fun _ _ => rfl⟩
  · exact Or.inr htext

theorem InStep.addBatch (h : s.InStep) (hwf : s.WellFormed) {b : Batch} (hsound : s.SoundBatch b)
    (htext : batchText s.texts b.commands = .ok b.text) : (s.addBatch b).InStep := by
  have hleads : s.Leads (fun _ => False) (s.addBatch b) := hwf.leads_addBatch hsound
  refine h.grown hwf hleads.grows (fun _ _ hg => Or.inl hg)
    (fun _ _ hu => Or.inl ⟨hu, fun _ _ => rfl⟩) ?_
  intro i x hx
  rcases getElem?_concat_cases hx with hold | ⟨_, rfl⟩
  · exact Or.inl hold
  · apply Or.inr
    rw [← htext]
    apply batchText_congr
    intro entry hentry ref href
    exact (hleads.grows.same_of_frozen (hsound.cited entry hentry ref href)).texts_eq

/-- A group may change with its text as long as no unit has it for a clause. -/
theorem InStep.setGroup (h : s.InStep) (hwf : s.WellFormed) {i : Nat} {g : CriteriaGroup}
    (hgrows : s.Grows (s.setGroup i g)) (hloose : s.Loose i)
    (htext : clauseText g.criteria = .ok g.text) : (s.setGroup i g).InStep := by
  refine h.grown hwf hgrows ?_ ?_ fun _ _ hb => Or.inl hb
  · intro j x hx
    rcases getElem?_set_cases hx with ⟨_, hold⟩ | ⟨_, rfl⟩
    · exact Or.inl hold
    · exact Or.inr htext
  · intro j u hu
    refine Or.inl ⟨hu, fun c hc => ?_⟩
    have hci : i ≠ c := by
      rintro rfl
      exact hloose j u hu hc
    simp only [texts, Store.setGroup, List.getElem?_set_ne hci]

theorem InStep.setUnit (h : s.InStep) (hwf : s.WellFormed) {i : Nat} {u : TargetedUnit}
    (hgrows : s.Grows (s.setUnit i u))
    (htext : unitText s.texts u.clause u.commands = .ok u.text) : (s.setUnit i u).InStep := by
  refine h.grown hwf hgrows (fun _ _ hg => Or.inl hg) ?_ fun _ _ hb => Or.inl hb
  intro j x hx
  rcases getElem?_set_cases hx with ⟨_, hold⟩ | ⟨_, rfl⟩
  · exact Or.inl ⟨hold, fun _ _ => rfl⟩
  · exact Or.inr htext

theorem InStep.setBatch (h : s.InStep) (hwf : s.WellFormed) {i : Nat} {b : Batch}
    (hgrows : s.Grows (s.setBatch i b)) (hsound : s.SoundBatch b)
    (htext : batchText s.texts b.commands = .ok b.text) : (s.setBatch i b).InStep := by
  refine h.grown hwf hgrows (fun _ _ hg => Or.inl hg)
    (fun _ _ hu => Or.inl ⟨hu, fun _ _ => rfl⟩) ?_
  intro j x hx
  rcases getElem?_set_cases hx with ⟨_, hold⟩ | ⟨_, rfl⟩
  · exact Or.inl hold
  · apply Or.inr
    rw [← htext]
    apply batchText_congr
    intro entry hentry ref href
    exact (hgrows.same_of_frozen (hsound.cited entry hentry ref href)).texts_eq

/-- A clause may change with its text if the unit that has it changes with it: between the two updates
the unit is out of step, after them all is in step again. -/
theorem InStep.setClause (h : s.InStep) (hwf : s.WellFormed) {i c : Nat} {u u' : TargetedUnit}
    {g : CriteriaGroup} (hu : s.units[i]? = some u) (hc : u.clause = some c)
    (hgrows : s.Grows ((s.setGroup c g).setUnit i u'))
    (hclause : clauseText g.criteria = .ok g.text)
    (htext : unitText (s.setGroup c g).texts u'.clause u'.commands = .ok u'.text) :
    ((s.setGroup c g).setUnit i u').InStep := by
  refine h.grown hwf hgrows ?_ ?_ fun _ _ hb => Or.inl hb
  · intro j x hx
    rcases getElem?_set_cases hx with ⟨_, hold⟩ | ⟨_, rfl⟩
    · exact Or.inl hold
    · exact Or.inr hclause
  · intro j v hv
    rcases getElem?_set_cases hv with ⟨hji, hold⟩ | ⟨_, rfl⟩
    · refine Or.inl ⟨hold, fun d hd => ?_⟩
      have hcd : c ≠ d := by
        rintro rfl
        exact hji (hwf.separate j i v u c hold hu hd hc)
      simp only [texts, Store.setUnit, Store.setGroup, List.getElem?_set_ne hcd]
    · exact Or.inr htext

theorem InStep.rebuilt (h : s.InStep) (u : TargetedUnit) : (s.rebuilt u).InStep := by
  unfold Store.rebuilt
  split
  · exact h
  · exact ⟨h.groups, h.units, h.batches⟩

end Store

end SwayControl
