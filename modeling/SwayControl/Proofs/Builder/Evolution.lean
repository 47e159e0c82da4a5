import Mathlib.Logic.Relation
import SwayControl.Proofs.Builder.Construct

/-!
How stores evolve. Whatever an operation does, as long as no argument is refused it is a run of a few
kinds of change, each of which says what was looked at before and what is there after it. What every
change keeps, every such operation keeps.
-/

namespace SwayControl

namespace Store

/-- One change of a store: a builder is made, an open one is extended or takes the text of its parts, or
one is copied. -/
inductive Change (s : Store) : Store → Prop
  | startGroup {value : Value} {criterion : Criterion} (hread : value.readCriterion = .ok criterion) :
    Change s (s.addGroup ⟨[value], bracketed [criterion.render], false⟩)
  | extendGroup {i : Nat} {g : CriteriaGroup} {value : Value} {criterion : Criterion}
    (hg : s.groups[i]? = some g) (hopen : g.frozen = false)
    (hread : value.readCriterion = .ok criterion) :
    Change s (s.setGroup i ⟨g.criteria ++ [value], extendClause g.text criterion.render, false⟩)
  | copyGroup {i : Nat} {g : CriteriaGroup} (hg : s.groups[i]? = some g) (frozen : Bool) :
    Change s (s.addGroup ⟨g.criteria, g.text, frozen⟩)
  | startUnit : Change s (s.addUnit ⟨none, [], "", false⟩)
  | extendUnit {i : Nat} {u : TargetedUnit} {value : Value} {command : SubCommand}
    (hu : s.units[i]? = some u) (hopen : u.frozen = false)
    (hread : value.readSubCommand = .ok command) :
    Change s (s.setUnit i
      ⟨u.clause, u.commands ++ [value], u.separated.text ++ command.render, false⟩)
  | rewriteUnit {i c : Nat} {u : TargetedUnit} {g : CriteriaGroup} {written : List String}
    (hu : s.units[i]? = some u) (hopen : u.frozen = false) (hc : u.clause = none ∨ u.clause = some c)
    (hg : s.groups[c]? = some g)
    (hwritten : (u.commands.mapM fun command => SubCommand.render <$> command.readSubCommand) =
      Except.ok written) :
    Change s (s.setUnit i
      ⟨some c, u.commands, g.text ++ subCommandSeparator.intercalate written, false⟩)
  | copyBare {i : Nat} {u : TargetedUnit} (hu : s.units[i]? = some u) (hc : u.clause = none)
    (frozen : Bool) : Change s (s.addUnit ⟨none, u.commands, u.text, frozen⟩)
  | copyTargeted {i c c' : Nat} {u : TargetedUnit} {g : CriteriaGroup} {frozen : Bool}
    (hu : s.units[i]? = some u) (hc : u.clause = some c) (hg : s.groups[c]? = some g)
    (hg' : s.groups[c']? = some ⟨g.criteria, g.text, frozen⟩) :
    Change s (s.addUnit ⟨some c', u.commands, u.text, frozen⟩)
  | note (count : Nat) : Change s (s.noted count)
  | startBatch : Change s (s.addBatch ⟨[], ""⟩)
  | extendBatch {i : Nat} {b : Batch} {entry : Value} {text : String}
    (hb : s.batches[i]? = some b) (hcited : ∀ ref ∈ entry.cited, s.Frozen ref)
    (htext : entry.commandText s.texts = .ok text) :
    Change s (s.setBatch i ⟨b.commands ++ [entry], b.separated.text ++ text⟩)

/-- A store after any number of changes of another. -/
abbrev Evolves : Store → Store → Prop := Relation.ReflTransGen Change

variable {s s' : Store}

theorem Change.grows (h : s.Change s') : s.Grows s' := by
  have hgroups (t : Store) := Grown.refl CriteriaGroup.Grows.refl t.groups
  have hunits (t : Store) := Grown.refl TargetedUnit.Grows.refl t.units
  have hbatches (t : Store) := Grown.refl Batch.Grows.refl t.batches
  cases h with
  | startGroup _ | copyGroup _ _ =>
      exact ⟨Grown.concat CriteriaGroup.Grows.refl _ _, hunits s, hbatches s⟩
  | extendGroup hg hopen _ =>
      refine ⟨Grown.set CriteriaGroup.Grows.refl hg ?_, hunits s, hbatches s⟩
      exact ⟨hopen.symm, List.prefix_append _ _, fun hfrozen => by simp [hopen] at hfrozen⟩
  | startUnit | copyBare _ _ _ | copyTargeted _ _ _ _ =>
      exact ⟨hgroups s, Grown.concat TargetedUnit.Grows.refl _ _, hbatches s⟩
  | extendUnit hu hopen _ =>
      refine ⟨hgroups s, Grown.set TargetedUnit.Grows.refl hu ?_, hbatches s⟩
      exact ⟨hopen.symm, fun _ hc => hc, List.prefix_append _ _,
        fun hfrozen => by simp [hopen] at hfrozen⟩
  | rewriteUnit hu hopen hc _ _ =>
      refine ⟨hgroups s, Grown.set TargetedUnit.Grows.refl hu ?_, hbatches s⟩
      -- the clause that is written is the one the unit had, if it had one
      refine ⟨hopen.symm, fun d hd => ?_, List.prefix_refl _,
        fun hfrozen => by simp [hopen] at hfrozen⟩
      rcases hc with hnone | hsome
      · rw [hnone] at hd
        cases hd
      · exact hsome.symm.trans hd
  | note _ => exact ⟨hgroups s, hunits s, hbatches s⟩
  | startBatch => exact ⟨hgroups s, hunits s, Grown.concat Batch.Grows.refl _ _⟩
  | @extendBatch _ b entry text hb _ _ =>
      obtain ⟨rest, hrest⟩ := b.separated_text
      refine ⟨hgroups s, hunits s, Grown.set Batch.Grows.refl hb ?_⟩
      exact ⟨List.prefix_append _ _, rest ++ text, by rw [hrest, String.append_assoc]⟩

/-- Whether every group has a criterion and holds the clause of its criteria. -/
def GroupsInStep (s : Store) : Prop :=
  ∀ (i : Nat) g, s.groups[i]? = some g → g.criteria ≠ [] ∧ clauseText g.criteria = .ok g.text

/-- Whether every batch holds the text of its entries, none of which will change. -/
def BatchesInStep (s : Store) : Prop :=
  ∀ (i : Nat) b, s.batches[i]? = some b →
    (∀ entry ∈ b.commands, ∀ ref ∈ entry.cited, s.Frozen ref) ∧
      batchText s.texts b.commands = .ok b.text

theorem Change.groupsInStep (h : s.Change s') (hs : s.GroupsInStep) : s'.GroupsInStep := by
  intro i x hx
  cases h with
  | startGroup hread =>
      rcases getElem?_concat_cases hx with hold | ⟨-, rfl⟩
      · exact hs i x hold
      · exact ⟨List.cons_ne_nil _ _, clauseText_singleton hread⟩
  | extendGroup hg _ hread =>
      rcases getElem?_set_cases hx with ⟨-, hold⟩ | ⟨-, rfl⟩
      · exact hs i x hold
      · obtain ⟨hne, htext⟩ := hs _ _ hg
        exact ⟨List.append_ne_nil_of_left_ne_nil hne _, clauseText_concat htext hne hread⟩
  | @copyGroup j g hg frozen =>
      rcases getElem?_concat_cases hx with hold | ⟨-, rfl⟩
      · exact hs i x hold
      · exact hs j g hg
  | _ => exact hs i x hx

/-- The entries of a batch keep their texts, as what they cite is frozen. -/
theorem Change.batchesInStep (h : s.Change s') (hs : s.BatchesInStep) : s'.BatchesInStep := by
  have hgrows := h.grows
  -- frozen builders are the same afterwards, so the texts that were joined are too
  have hkept {b : Batch} {i : Nat} (hb : s.batches[i]? = some b) :
      (∀ entry ∈ b.commands, ∀ ref ∈ entry.cited, s'.Frozen ref) ∧
        batchText s'.texts b.commands = .ok b.text := by
    obtain ⟨hcited, htext⟩ := hs i b hb
    refine ⟨fun entry hentry ref href => hgrows.frozen (hcited entry hentry ref href), ?_⟩
    rw [← htext]
    apply batchText_congr
    intro entry hentry ref href
    exact (hgrows.same_of_frozen (hcited entry hentry ref href)).texts_eq
  intro i x hx
  cases h with
  | startBatch =>
      rcases getElem?_concat_cases hx with hold | ⟨-, rfl⟩
      · exact hkept hold
      · exact ⟨fun _ hentry => absurd hentry List.not_mem_nil, rfl⟩
  | extendBatch hb hcited htext =>
      rcases getElem?_set_cases hx with ⟨-, hold⟩ | ⟨-, rfl⟩
      · exact hkept hold
      · obtain ⟨hcited', htext'⟩ := hkept hb
        refine ⟨fun entry hentry ref href => ?_, ?_⟩
        · rcases List.mem_append.mp hentry with hold | hnew
          · exact hcited' entry hold ref href
          · rw [List.mem_singleton.mp hnew] at href
            exact hgrows.frozen (hcited ref href)
        · exact batchText_concat htext' ((hgrows.commandText_eq hcited).trans htext)
  | _ => exact hkept hx

/-- What every change keeps holds of every store that one with it evolves into. -/
theorem Evolves.invariant {inv : Store → Prop}
    (hchange : ∀ t t' : Store, t.Change t' → inv t → inv t') (h : s.Evolves s') (hs : inv s) :
    inv s' := by
  induction h with
  | refl => exact hs
  | tail _ hlast ih => exact hchange _ _ hlast ih

/-- A group stays where it is when one more is made. -/
theorem getElem?_addGroup {c : Nat} {g : CriteriaGroup} (hg : s.groups[c]? = some g)
    (g' : CriteriaGroup) : (s.addGroup g').groups[c]? = some g := by
  have hc : c < s.groups.length := has_group hg
  exact (List.getElem?_append_left hc).trans hg

theorem evolves_rebuilt (s : Store) (u : TargetedUnit) : s.Evolves (s.rebuilt u) := by
  unfold rebuilt
  split
  · exact .refl
  · exact .single (.note _)

end Store

namespace Building

open Store

variable {α β : Type} {s s' : Store} {i : Nat} {value : Value} {x : Building α}
  {f : α → Building β}

/-- Whether an operation lets a store evolve unless an argument of it is refused. -/
def Evolving (x : Building α) (s : Store) : Prop :=
  match x.run s with
  | .ok _ s' => s.Evolves s'
  | .error fault s' => (∀ r, fault ≠ .refused r) → s.Evolves s'

theorem Evolving.of_ok {a : α} (hrun : x.run s = .ok a s') (h : s.Evolves s') : Evolving x s := by
  simpa only [Evolving, hrun] using h

theorem Evolving.of_error {fault : Fault} (hrun : x.run s = .error fault s')
    (h : (∀ r, fault ≠ .refused r) → s.Evolves s') : Evolving x s := by
  simpa only [Evolving, hrun] using h

/-- Nothing is said about the store that a refused argument leaves. -/
theorem Evolving.of_refused {refusal : Refusal} (hrun : x.run s = .error (.refused refusal) s') :
    Evolving x s :=
  Evolving.of_error hrun fun hnot => absurd rfl (hnot refusal)

theorem Evolving.of_untouched {fault : Fault} (hrun : x.run s = .error fault s) : Evolving x s :=
  Evolving.of_error hrun fun _ => .refl

theorem Evolving.pure (a : α) : Evolving (pure a) s := Evolving.of_ok (EStateM.run_pure a s) .refl

theorem Evolving.bind (hx : Evolving x s) (hf : ∀ a s', x.run s = .ok a s' → Evolving (f a) s') :
    Evolving (x >>= f) s := by
  refine Ends.bind hx (fun a s' hrun hfirst => ?_) fun _ _ _ hfault => hfault
  exact Ends.imp (hf a s' hrun) (fun _ _ hlast => hfirst.trans hlast)
    fun _ _ hlast hnot => hfirst.trans (hlast hnot)

theorem Evolving.bind_pure {g : α → β} (hx : Evolving x s) :
    Evolving (x >>= fun a => Pure.pure (g a)) s :=
  hx.bind fun a _ _ => Evolving.pure (g a)

theorem Evolving.map {g : α → β} (hx : Evolving x s) : Evolving (g <$> x) s := by
  rw [map_eq_pure_bind]
  exact hx.bind_pure

/-- What an operation guarantees may be used of the store that the next one starts from. -/
theorem Runs.evolving_bind {direct : Prop} {h : History} {post : α → Store → Prop}
    (hruns : Runs (fun _ => True) direct h x s post) (hx : Evolving x s)
    (hf : ∀ a s', s.Leads (fun _ => True) s' → post a s' → Evolving (f a) s') :
    Evolving (x >>= f) s := by
  apply hx.bind
  intro a s' hrun
  simp only [Runs, hrun] at hruns
  exact hf a s' hruns.1 hruns.2.2

/-- A loop lets a store evolve as its rounds do. -/
theorem forM_evolving {g : α → Building Unit} {held : α → Store → Prop}
    (hheld : ∀ a t t', held a t → t.Grows t' → held a t')
    (hruns : ∀ a t, t.WellFormed → held a t →
      ∃ h, Runs (fun _ => True) False h (g a) t fun _ _ => True)
    (hevolving : ∀ a t, t.WellFormed → held a t → Evolving (g a) t) :
    ∀ (items : List α) (s : Store), s.WellFormed → (∀ a ∈ items, held a s) →
      Evolving (items.forM g) s := by
  intro items
  induction items with
  | nil => exact fun s _ _ => Evolving.pure ()
  | cons a rest ih =>
      intro s hwf hitems
      have ha := hitems a List.mem_cons_self
      obtain ⟨h, hround⟩ := hruns a s hwf ha
      refine hround.evolving_bind (hevolving a s hwf ha) fun _ s' hleads _ => ?_
      exact ih s' hleads.wellFormed fun b hb =>
        hheld b s s' (hitems b (List.mem_cons_of_mem a hb)) hleads.grows

theorem startGroup_evolving (value : Value) : Evolving (startGroup value) s := by
  cases hread : value.readCriterion with
  | ok criterion => exact .of_ok (run_startGroup_ok hread) (.single (.startGroup hread))
  | error refusal => exact .of_refused (run_startGroup_error hread)

theorem addToGroup_evolving (i : Nat) (value : Value) : Evolving (addToGroup i value) s := by
  cases hg : s.groups[i]? with
  | none => exact .of_refused (run_addToGroup_none hg value)
  | some g =>
      cases hfrozen : g.frozen with
      | true => exact .of_untouched (run_addToGroup_frozen hg hfrozen value)
      | false =>
          cases hread : value.readCriterion with
          | ok criterion =>
              exact .of_ok (run_addToGroup_ok hg hfrozen hread) (.single (.extendGroup hg hfrozen hread))
          | error refusal => exact .of_refused (run_addToGroup_error hg hfrozen hread)

theorem copyGroup_evolving (i : Nat) : Evolving (copyGroup i) s := by
  cases hg : s.groups[i]? with
  | none => exact .of_refused (run_copyGroup_none hg)
  | some g => exact .of_ok (run_copyGroup hg) (.single (.copyGroup hg false))

theorem freezeGroup_evolving (i : Nat) : Evolving (freezeGroup i) s := by
  cases hg : s.groups[i]? with
  | none => exact .of_refused (run_freezeGroup_none hg)
  | some g =>
      cases hfrozen : g.frozen with
      | true => exact .of_ok (run_freezeGroup_frozen hg hfrozen) .refl
      | false => exact .of_ok (run_freezeGroup_copy hg hfrozen) (.single (.copyGroup hg true))

theorem groupOf_evolving (first : Value) (rest : List Value) : Evolving (groupOf first rest) s := by
  have hloop (i : Nat) (items : List Value) :
      ∀ t : Store, Evolving (items.forM (addToGroup i)) t := by
    induction items with
    | nil => exact fun t => Evolving.pure ()
    | cons value later ih => exact fun t => (addToGroup_evolving i value).bind fun _ t' _ => ih t'
  exact (startGroup_evolving first).bind fun i t _ => (hloop i rest t).bind_pure

theorem startUnit_evolving : Evolving startUnit s := .of_ok run_startUnit (.single .startUnit)

theorem addCommand_evolving (i : Nat) (value : Value) : Evolving (addCommand i value) s := by
  cases hu : s.units[i]? with
  | none => exact .of_refused (run_addCommand_none hu value)
  | some u =>
      cases hfrozen : u.frozen with
      | true => exact .of_untouched (run_addCommand_frozen hu hfrozen value)
      | false =>
          cases hread : value.readSubCommand with
          | ok command =>
              exact .of_ok (run_addCommand_ok hu hfrozen hread) (.single (.extendUnit hu hfrozen hread))
          | error refusal => exact .of_refused (run_addCommand_error hu hfrozen hread)

/-- A criterion for a unit makes or extends its clause, and then the unit takes the text of its parts. -/
theorem addCriterion_evolving (hwf : s.WellFormed) (i : Nat) (value : Value) :
    Evolving (addCriterion i value) s := by
  cases hu : s.units[i]? with
  | none => exact .of_refused (run_addCriterion_none hu value)
  | some u =>
      cases hfrozen : u.frozen with
      | true => exact .of_untouched (run_addCriterion_frozen hu hfrozen value)
      | false =>
          obtain ⟨written, hwritten⟩ := (hwf.units i u hu).written
          cases hc : u.clause with
          | none =>
              cases hread : value.readCriterion with
              | error refusal => exact .of_refused (run_addCriterion_error_open hu hfrozen hc hread)
              | ok criterion =>
                  apply Evolving.of_ok (run_addCriterion_open hu hfrozen hc hread hwritten)
                  have hrewrite := Change.rewriteUnit
                    (s := s.addGroup ⟨[value], bracketed [criterion.render], false⟩) hu hfrozen
                    (Or.inl hc) List.getElem?_concat_length hwritten
                  exact ((Relation.ReflTransGen.single (.startGroup hread)).tail hrewrite).trans
                    (evolves_rebuilt _ u)
          | some c =>
              obtain ⟨g, hg, hflag⟩ := (hwf.units i u hu).clause c hc
              have hgfrozen : g.frozen = false := hflag.trans hfrozen
              cases hread : value.readCriterion with
              | error refusal =>
                  exact .of_refused (run_addCriterion_error_extend hu hfrozen hc hg hgfrozen hread)
              | ok criterion =>
                  apply Evolving.of_ok (run_addCriterion_extend hu hfrozen hc hg hgfrozen hread hwritten)
                  have hlt : c < s.groups.length := has_group hg
                  have hrewrite := Change.rewriteUnit (s := s.setGroup c
                      ⟨g.criteria ++ [value], extendClause g.text criterion.render, false⟩)
                    hu hfrozen (Or.inr hc) (List.getElem?_set_self hlt) hwritten
                  exact ((Relation.ReflTransGen.single (.extendGroup hg hgfrozen hread)).tail
                    hrewrite).trans (evolves_rebuilt _ u)

theorem copyUnit_evolving (hwf : s.WellFormed) (i : Nat) : Evolving (copyUnit i) s := by
  cases hu : s.units[i]? with
  | none => exact .of_refused (run_copyUnit_none hu)
  | some u =>
      cases hc : u.clause with
      | none => exact .of_ok (run_copyUnit_bare hu hc) (.single (.copyBare hu hc false))
      | some c =>
          obtain ⟨g, hg, _⟩ := (hwf.units i u hu).clause c hc
          apply Evolving.of_ok (run_copyUnit_clause hu hc hg)
          have hclause : s.Change (s.addGroup ⟨g.criteria, g.text, false⟩) := .copyGroup hg false
          have hg' := getElem?_addGroup hg ⟨g.criteria, g.text, false⟩
          exact (Relation.ReflTransGen.single hclause).tail
            (.copyTargeted hu hc hg' List.getElem?_concat_length)

theorem freezeUnit_evolving (hwf : s.WellFormed) (i : Nat) : Evolving (freezeUnit i) s := by
  cases hu : s.units[i]? with
  | none => exact .of_refused (run_freezeUnit_none hu)
  | some u =>
      cases hfrozen : u.frozen with
      | true => exact .of_ok (run_freezeUnit_frozen hu hfrozen) .refl
      | false =>
          cases hc : u.clause with
          | none => exact .of_ok (run_freezeUnit_bare hu hfrozen hc) (.single (.copyBare hu hc true))
          | some c =>
              obtain ⟨g, hg, _⟩ := (hwf.units i u hu).clause c hc
              apply Evolving.of_ok (run_freezeUnit_clause hu hfrozen hc hg)
              -- The clause is copied twice, and the second copy belongs to the frozen unit.
              have hfirst : s.Change (s.addGroup ⟨g.criteria, g.text, false⟩) := .copyGroup hg false
              have hg' := getElem?_addGroup hg ⟨g.criteria, g.text, false⟩
              have hsecond := Change.copyGroup (s := s.addGroup ⟨g.criteria, g.text, false⟩) hg' true
              have hg'' := getElem?_addGroup hg' ⟨g.criteria, g.text, true⟩
              have hlast : ((s.addGroup ⟨g.criteria, g.text, false⟩).addGroup
                  ⟨g.criteria, g.text, true⟩).groups[s.groups.length + 1]? =
                    some ⟨g.criteria, g.text, true⟩ := by
                have hlength : (s.addGroup ⟨g.criteria, g.text, false⟩).groups.length =
                    s.groups.length + 1 := List.length_append
                rw [← hlength]
                exact List.getElem?_concat_length
              exact ((Relation.ReflTransGen.single hfirst).tail hsecond).tail
                (.copyTargeted hu hc hg'' hlast)

theorem unitOf_evolving (value : Value) : Evolving (unitOf value) s :=
  startUnit_evolving.bind fun i _ _ => (addCommand_evolving i value).bind_pure

theorem entry_evolving (hwf : s.WellFormed) (hvalue : s.Holds value) :
    Evolving (entry value) s := by
  cases value with
  | builder ref =>
      cases ref with
      | unit i => exact (freezeUnit_evolving hwf i).bind_pure
      | _ => exact Evolving.pure _
  | record form fields =>
      cases form with
      | subCommand form =>
          refine (unitOf_runs hwf hvalue).evolving_bind (unitOf_evolving _) fun i t hleads _ => ?_
          exact (freezeUnit_evolving hleads.wellFormed i).bind_pure
      | _ => exact Evolving.pure _
  | _ => exact Evolving.pure _

theorem append_evolving (hwf : s.WellFormed) (hvalue : s.Holds value) (i : Nat) :
    Evolving (append i value) s := by
  have hruns : Runs (fun _ => True) False [] (entry value) s fun kept s' => Kept s value kept s' :=
    entry_runs hwf hvalue
  have hentry := entry_evolving hwf hvalue
  unfold Runs at hruns
  unfold Evolving at hentry
  cases hrun : (entry value).run s with
  | error fault s' =>
      simp only [hrun] at hentry
      refine Evolving.of_error ?_ hentry
      simp only [append]
      rw [run_bind_error hrun]
  | ok kept s' =>
      simp only [hrun] at hruns hentry
      obtain ⟨hleads, -, hkept⟩ := hruns
      cases hb : s'.batches[i]? with
      | none =>
          apply Evolving.of_refused
          simp only [append]
          rw [run_bind_ok hrun, run_bind_error (run_batch_none hb)]
      | some b =>
          have hsep := separate_leads (fun _ => True) hleads.wellFormed hb trivial
          have htext := hsep.grows.commandText_eq hkept.cited
          cases hread : kept.commandText s'.texts with
          | error refusal => exact .of_refused (run_append_error hrun hb (htext.trans hread))
          | ok text =>
              exact .of_ok (run_append_ok hrun hb (htext.trans hread))
                (hentry.tail (.extendBatch hb hkept.cited hread))

end Building

end SwayControl
