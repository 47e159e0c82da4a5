import SwayControl.Proofs.Builder.Accepted
import SwayControl.Proofs.Builder.Interleaving
import SwayControl.Proofs.Builder.Refinement
import SwayControl.Proofs.Grammar.HeldValue
import SwayControl.Proofs.Grammar.Pieces

/-!
Texts taken apart. Where no text that a batch holds has a semicolon, the semicolons of its text are those
that were put between its entries; where no text of a unit has the delimiter that is looked for, its
clause ends at the first closing bracket, and the commas behind it part its sub-commands. This holds in
every state that accepted steps lead to: also for units whose clause was edited directly, whose text is
an older one, but still one of grammar and held texts alone.
-/

namespace SwayControl

/-- The part of a text up to the first place of a character and with it. -/
def through (d : Char) (t : String) : String := String.ofList (t.toList.take (t.toList.idxOf d + 1))

/-- The part of a text behind the first place of a character. -/
def beyond (d : Char) (t : String) : String := String.ofList (t.toList.drop (t.toList.idxOf d + 1))

/-- A text that ends with the first place of a character is found again in front of any other. -/
theorem through_append {d : Char} {front : String} (h : Lacks d front) {bracket : String}
    (hbracket : bracket.toList = [d]) (rest : String) :
    through d (front ++ bracket ++ rest) = front ++ bracket ∧
      beyond d (front ++ bracket ++ rest) = rest := by
  have hlist : (front ++ bracket ++ rest).toList = front.toList ++ (d :: rest.toList) := by
    simp [String.toList_append, hbracket]
  have hplace : (front ++ bracket ++ rest).toList.idxOf d = front.toList.length := by
    rw [hlist, List.idxOf_append_of_notMem h, List.idxOf_cons_self, Nat.add_zero]
  constructor
  · apply String.toList_inj.mp
    rw [through, hplace, hlist]
    simp [List.take_append, List.take_of_length_le, hbracket]
  · apply String.toList_inj.mp
    rw [beyond, hplace, hlist]
    simp [List.drop_append]

namespace Store

/-- Whether a character is in no text that the criteria of a group hold. -/
def ClauseWithout (s : Store) (d : Char) (c : Nat) : Prop :=
  ∀ g, s.groups[c]? = some g → Value.WithoutAll d (fun _ => True) g.criteria

/-- Whether a character is in no text that the criteria and the sub-commands of a builder hold. Neither
holds a builder in its turn, and no command a batch. -/
def BuilderWithout (s : Store) (d : Char) : Ref → Prop
  | .group c => s.ClauseWithout d c
  | .unit i => ∀ u, s.units[i]? = some u → (∀ c, u.clause = some c → s.ClauseWithout d c) ∧
      Value.WithoutAll d (fun _ => True) u.commands
  | .batch _ => True

instance (s : Store) (d : Char) (c : Nat) : Decidable (s.ClauseWithout d c) :=
  inferInstanceAs (Decidable (∀ g ∈ s.groups[c]?, Value.WithoutAll d (fun _ => True) g.criteria))

instance (s : Store) (d : Char) : DecidablePred (s.BuilderWithout d)
  | .group c => inferInstanceAs (Decidable (s.ClauseWithout d c))
  | .unit i => inferInstanceAs (Decidable (∀ u ∈ s.units[i]?,
      (∀ c ∈ u.clause, s.ClauseWithout d c) ∧ Value.WithoutAll d (fun _ => True) u.commands))
  | .batch _ => .isTrue trivial

/-- The criteria that a unit has. -/
def criteriaOf (s : Store) (u : TargetedUnit) : List Value :=
  u.clause.elim [] fun c => (s.groups[c]?).elim [] CriteriaGroup.criteria

/-- Whether the pieces of a batch's text at its semicolons are the texts of its entries. -/
def BatchParts (s : Store) (b : Batch) : Prop :=
  b.commands.mapM (Value.commandText s.texts) = .ok (piecesAt ';' b.text)

/-- Whether a unit's text starts with a bracket just if it has criteria, its part through the first
closing bracket then is the text of its clause, and the pieces of the rest at its commas are what its
sub-commands are written as. -/
structure UnitParts (s : Store) (u : TargetedUnit) : Prop where
  bracket : u.text.toList.head? = some '[' ↔ s.criteriaOf u ≠ []
  clause : ∀ c, u.clause = some c → through ']' u.text = s.texts (.group c)
  commands : (u.commands.mapM fun command => SubCommand.render <$> command.readSubCommand) =
    .ok (piecesAt ',' (u.clause.elim u.text fun _ => beyond ']' u.text))

/-- Whether semicolons in the texts of units come from what the units hold. -/
def UnitsWithout (s : Store) : Prop :=
  ∀ (i : Nat) u, s.units[i]? = some u → (∀ c, u.clause = some c → s.ClauseWithout ';' c) →
    Value.WithoutAll ';' (fun _ => True) u.commands → Lacks ';' u.text

variable {s s' : Store}

/-- A clause that was grown has all texts that it had. -/
theorem Grows.clauseWithout (h : s.Grows s') {d : Char} {c : Nat} (hc : s'.ClauseWithout d c) :
    s.ClauseWithout d c := by
  intro g hg
  obtain ⟨g', hg', hgrows⟩ := h.groups c g hg
  rw [Value.withoutAll_iff]
  intro v hv
  exact Value.withoutAll_iff.mp (hc g' hg') v (hgrows.criteria.subset hv)

/-- Between the brackets of a clause stands no delimiter unless a text of a criterion has it. -/
theorem lacks_clauseText {d : Char} (hd : d ∈ delimiters) {criteria : List Value} {text : String}
    (htext : clauseText criteria = .ok text) (h : Value.WithoutAll d (fun _ => True) criteria) :
    ∃ front, text = "[" ++ front ++ "]" ∧ Lacks d front := by
  have hwithout := Value.withoutAll_iff.mp h
  unfold clauseText at htext
  cases hread : criteria.mapM Value.readCriterion with
  | error refusal => simp [hread, Functor.map, Except.map] at htext
  | ok read =>
      rw [hread] at htext
      refine ⟨spaced (read.map Criterion.render), (Except.ok.inj htext).symm, ?_⟩
      have hgives := gives_mapM fun v hv => Value.gives_readCriterion hd (hwithout v hv)
      apply lacks_intercalate (lacks_space hd)
      intro t ht
      obtain ⟨criterion, hcriterion, rfl⟩ := List.mem_map.mp ht
      exact criterion.lacks_render hd (hgives read hread criterion hcriterion)

/-- A clause lacks a semicolon if no text of its criteria has one. -/
theorem lacks_clause {criteria : List Value} {text : String}
    (htext : clauseText criteria = .ok text)
    (h : Value.WithoutAll ';' (fun _ => True) criteria) : Lacks ';' text := by
  obtain ⟨front, rfl, hfront⟩ := lacks_clauseText (by decide) htext h
  exact lacks_append.mpr ⟨lacks_append.mpr ⟨by decide, hfront⟩, by decide⟩

/-- Sub-commands have no delimiter unless a text of them has. -/
theorem lacksEach_written {d : Char} (hd : d ∈ delimiters) {commands : List Value}
    (h : Value.WithoutAll d (fun _ => True) commands) {written : List String}
    (hwritten : (commands.mapM fun command => SubCommand.render <$> command.readSubCommand) =
      Except.ok written) : LacksEach d written := by
  have hgives (v : Value) (hv : v ∈ commands) :
      Gives (SubCommand.render <$> v.readSubCommand) (Lacks d) :=
    (Value.gives_readSubCommand hd (Value.withoutAll_iff.mp h v hv)).map
      fun c hc => c.lacks_render hd hc
  exact gives_mapM hgives written hwritten

/-- Joined sub-commands do not start with a bracket. -/
theorem head?_joined {commands : List Value} {written : List String} (hne : written ≠ [])
    (hwritten : (commands.mapM fun command => SubCommand.render <$> command.readSubCommand) =
      Except.ok written) : (subCommandSeparator.intercalate written).toList.head? ≠ some '[' := by
  have hplain := gives_mapM (P := fun t => ∃ first, t.toList.head? = some first ∧ first ≠ '[')
    (fun v _ => gives_map fun c => c.head?_render) written hwritten
  cases written with
  | nil => exact absurd rfl hne
  | cons word rest =>
      obtain ⟨first, hfirst, hbracket⟩ := hplain word List.mem_cons_self
      have hword : word ≠ "" := by
        rintro rfl
        simp at hfirst
      rw [head?_intercalate hword, hfirst]
      exact fun h => hbracket (Option.some.inj h)

theorem lacks_separated {u : TargetedUnit} (h : Lacks ';' u.text) :
    Lacks ';' u.separated.text := by
  unfold TargetedUnit.separated
  split
  · exact h
  · exact lacks_append.mpr ⟨h, by decide⟩

/-- A semicolon in the text of a unit is one of its sub-commands or of its clause as it was when the text
was written; the clause it has now has that one too. -/
theorem Change.unitsWithout (h : s.Change s') (hgroups : s.GroupsInStep) (hunits : s.UnitsWithout) :
    s'.UnitsWithout := by
  have hgrows := h.grows
  -- a clause holds now at least what it held, so units that were there lack what they lacked
  have hkept {j : Nat} {u : TargetedUnit} (hu : s.units[j]? = some u)
      (hclause : ∀ c, u.clause = some c → s'.ClauseWithout ';' c)
      (hcommands : Value.WithoutAll ';' (fun _ => True) u.commands) : Lacks ';' u.text :=
    hunits j u hu (fun c hc => hgrows.clauseWithout (hclause c hc)) hcommands
  intro i x hx hclause hcommands
  cases h with
  | startUnit =>
      rcases getElem?_concat_cases hx with hold | ⟨-, rfl⟩
      · exact hkept hold hclause hcommands
      · exact lacks_empty
  | extendUnit hu _ hread =>
      rcases getElem?_set_cases hx with ⟨-, hold⟩ | ⟨-, rfl⟩
      · exact hkept hold hclause hcommands
      · obtain ⟨hbefore, hnew⟩ := List.forall_mem_append.mp (Value.withoutAll_iff.mp hcommands)
        have htext := hkept hu hclause (Value.withoutAll_iff.mpr hbefore)
        have hcommand := Value.gives_readSubCommand (by decide) (hnew _ List.mem_cons_self) _ hread
        exact lacks_append.mpr
          ⟨lacks_separated htext, SubCommand.lacks_render (by decide) _ hcommand⟩
  | rewriteUnit hu _ _ hg hwritten =>
      rcases getElem?_set_cases hx with ⟨-, hold⟩ | ⟨-, rfl⟩
      · exact hkept hold hclause hcommands
      · have hfront := lacks_clause (hgroups _ _ hg).2 (hgrows.clauseWithout (hclause _ rfl) _ hg)
        have hwhole := lacks_intercalate (s := subCommandSeparator) (by decide)
          (lacksEach_written (by decide) hcommands hwritten)
        exact lacks_append.mpr ⟨hfront, hwhole⟩
  | @copyBare j u hu hc frozen =>
      rcases getElem?_concat_cases hx with hold | ⟨-, rfl⟩
      · exact hkept hold hclause hcommands
      · have hnone (c : Nat) (hc' : u.clause = some c) : s.ClauseWithout ';' c := by
          rw [hc] at hc'
          cases hc'
        exact hunits j u hu hnone hcommands
  | @copyTargeted _ _ _ u g frozen hu hc hg hg' =>
      rcases getElem?_concat_cases hx with hold | ⟨-, rfl⟩
      · exact hkept hold hclause hcommands
      · -- The copy's clause has the criteria of the clause that was copied.
        have hcriteria : Value.WithoutAll ';' (fun _ => True) g.criteria :=
          hclause _ rfl ⟨g.criteria, g.text, frozen⟩ hg'
        refine hunits _ u hu (fun d hd g' hg'' => ?_) hcommands
        rw [hc] at hd
        cases hd
        rw [hg] at hg''
        cases hg''
        exact hcriteria
  | _ => exact hkept hx hclause hcommands

/-- The texts of a group and of a unit lack a semicolon if what they hold does. -/
theorem lacks_texts (hgroups : s.GroupsInStep) (hunits : s.UnitsWithout) (ref : Ref)
    (href : s.BuilderWithout ';' ref) (hbatch : ∀ i, ref ≠ .batch i) : Lacks ';' (s.texts ref) := by
  cases ref with
  | group c =>
      simp only [texts]
      cases hg : s.groups[c]? with
      | none => exact lacks_empty
      | some g => exact lacks_clause (hgroups c g hg).2 (href g hg)
  | unit i =>
      simp only [texts]
      cases hu : s.units[i]? with
      | none => exact lacks_empty
      | some u =>
          obtain ⟨hclause, hcommands⟩ := href u hu
          exact hunits i u hu hclause hcommands
  | batch i => exact absurd rfl (hbatch i)

/-- The semicolons of a batch part its entries, if no entry holds one. -/
theorem BatchesInStep.parts (h : s.BatchesInStep) (hgroups : s.GroupsInStep)
    (hunits : s.UnitsWithout) {i : Nat} {b : Batch} (hb : s.batches[i]? = some b)
    (hne : b.commands ≠ [])
    (hwithout : ∀ entry ∈ b.commands, entry.Without ';' (s.BuilderWithout ';')) :
    s.BatchParts b := by
  have htext := (h i b hb).2
  unfold batchText at htext
  cases hread : b.commands.mapM (Value.commandText s.texts) with
  | error refusal => simp [hread, Functor.map, Except.map] at htext
  | ok pieces =>
      rw [hread] at htext
      have hjoined : commandSeparator.intercalate pieces = b.text := Except.ok.inj htext
      have hpieces : LacksEach ';' pieces := by
        have hgives (entry : Value) (hentry : entry ∈ b.commands) :
            Gives (entry.commandText s.texts) (Lacks ';') :=
          Value.gives_commandText (by decide)
            (fun c hc => lacks_texts hgroups hunits (.group c) hc (by simp))
            (fun j hj => lacks_texts hgroups hunits (.unit j) hj (by simp))
            (by decide) entry (hwithout entry hentry)
        exact gives_mapM hgives pieces hread
      have hne' : pieces ≠ [] := mt (mapM_ok_eq_nil_iff hread).mp hne
      rw [BatchParts, hread, ← hjoined]
      rw [piecesAt_intercalate (by decide) hne' hpieces]

/-- A unit that holds the text of its parts comes apart at its first closing bracket and at the commas
behind it. -/
theorem unitParts_of_text {u : TargetedUnit}
    (htext : unitText s.texts u.clause u.commands = .ok u.text)
    (hgroup : ∀ c, u.clause = some c → ∃ g, s.groups[c]? = some g ∧ g.criteria ≠ [] ∧
      clauseText g.criteria = .ok g.text)
    (hne : u.commands ≠ []) (hcommands : Value.WithoutAll ',' (fun _ => True) u.commands)
    (hclause : ∀ c, u.clause = some c → s.ClauseWithout ']' c) : s.UnitParts u := by
  cases hwritten : u.commands.mapM fun command => SubCommand.render <$> command.readSubCommand with
  | error refusal =>
      simp only [unitText, hwritten] at htext
      cases htext
  | ok written =>
      rw [unitText_of_written hwritten] at htext
      have hjoined := Except.ok.inj htext
      have hne' : written ≠ [] := mt (mapM_ok_eq_nil_iff hwritten).mp hne
      have hpieces : piecesAt ',' (subCommandSeparator.intercalate written) = written :=
        piecesAt_intercalate (by decide) hne' (lacksEach_written (by decide) hcommands hwritten)
      cases hc : u.clause with
      | none =>
          -- the text starts with a sub-command, and none of them starts with a bracket
          simp only [hc, Option.elim_none, String.empty_append] at hjoined
          refine ⟨?_, fun c hc' => ?_, ?_⟩
          · have hbracket := head?_joined hne' hwritten
            rw [hjoined] at hbracket
            have hcriteria : s.criteriaOf u = [] := by simp [criteriaOf, hc]
            exact ⟨fun h => absurd h hbracket, fun h => absurd hcriteria h⟩
          · rw [hc] at hc'
            cases hc'
          · rw [hc, Option.elim_none, ← hjoined, hpieces, hwritten]
      | some c =>
          obtain ⟨g, hg, hcriteria, hgtext⟩ := hgroup c hc
          obtain ⟨front, hfront, hlacks⟩ := lacks_clauseText (by decide) hgtext (hclause c hc g hg)
          have htexts : s.texts (.group c) = "[" ++ front ++ "]" := by
            simp only [texts, hg, Option.elim_some, hfront]
          simp only [hc, Option.elim_some, htexts] at hjoined
          -- the first closing bracket is the clause's own, whatever stands behind it
          have hopen : Lacks ']' ("[" ++ front) := lacks_append.mpr ⟨by decide, hlacks⟩
          obtain ⟨hthrough, hbeyond⟩ := through_append hopen (by decide : "]".toList = [']'])
            (subCommandSeparator.intercalate written)
          rw [hjoined] at hthrough hbeyond
          refine ⟨?_, fun c' hc' => ?_, ?_⟩
          · have hbracket : u.text.toList.head? = some '[' := by
              rw [← hjoined]
              simp [String.toList_append]
            have hcriteria' : s.criteriaOf u ≠ [] := by simpa [criteriaOf, hc, hg] using hcriteria
            exact ⟨fun _ => hcriteria', fun _ => hbracket⟩
          · rw [hc] at hc'
            cases hc'
            rw [hthrough, htexts]
          · rw [hc, Option.elim_some, hbeyond, hpieces, hwritten]

theorem groupsInStep_empty : Store.empty.GroupsInStep := by
  intro i g hg
  simp [empty] at hg

theorem batchesInStep_empty : Store.empty.BatchesInStep := by
  intro i b hb
  simp [empty] at hb

theorem unitsWithout_empty : Store.empty.UnitsWithout := by
  intro i u hu
  simp [empty] at hu

end Store

namespace Building

/-- A unit that is made by calls of its own comes apart into its parts, whatever else the store has. -/
theorem assemble_parts (s : Store) {moves : List Move} {cs : List Criterion} {ss : List SubCommand}
    (hcs : (Move.criteria moves).mapM Value.readCriterion = .ok cs)
    (hss : (Move.commands moves).mapM Value.readSubCommand = .ok ss)
    (hne : Move.commands moves ≠ [])
    (hcommands : Value.WithoutAll ',' (fun _ => True) (Move.commands moves))
    (hcriteria : Value.WithoutAll ']' (fun _ => True) (Move.criteria moves)) :
    ∃ i s' u, (assemble moves).run s = .ok i s' ∧ s'.units[i]? = some u ∧
      u.commands = Move.commands moves ∧ s'.criteriaOf u = Move.criteria moves ∧ s'.UnitParts u := by
  obtain ⟨i, s', u, hrun, hassembled, -⟩ := assemble_assembles s hcs hss
  have hclause := hassembled.clause
  have hunit := hassembled.commands
  refine ⟨i, s', u, hrun, hassembled.unit, hunit, ?_, ?_⟩
  · cases hc : u.clause with
    | none =>
        rw [hc] at hclause
        simp [Store.criteriaOf, hc, show Move.criteria moves = [] from hclause]
    | some c =>
        rw [hc] at hclause
        obtain ⟨-, g, hg, -, hheld, -⟩ := hclause
        simp [Store.criteriaOf, hc, hg, hheld]
  · apply Store.unitParts_of_text hassembled.text
    · intro c hc
      rw [hc] at hclause
      obtain ⟨hsome, g, hg, -, hheld, htext⟩ := hclause
      exact ⟨g, hg, hheld ▸ hsome, hheld ▸ htext⟩
    · rwa [hunit]
    · rwa [hunit]
    · intro c hc g hg
      rw [hc] at hclause
      obtain ⟨-, g', hg', -, hheld, -⟩ := hclause
      rw [hg'] at hg
      cases hg
      rwa [hheld]

end Building

namespace Session

open Building

variable {script : List Step}

theorem after_groupsInStep (hscript : Along Accepts start script) :
    (start.after script).store.GroupsInStep :=
  after_invariant Store.groupsInStep_empty (fun _ _ hchange hs => hchange.groupsInStep hs) hscript

theorem after_batchesInStep (hscript : Along Accepts start script) :
    (start.after script).store.BatchesInStep :=
  after_invariant Store.batchesInStep_empty (fun _ _ hchange hs => hchange.batchesInStep hs) hscript

theorem after_unitsWithout (hscript : Along Accepts start script) :
    (start.after script).store.UnitsWithout := by
  let inv (s : Store) : Prop := s.GroupsInStep ∧ s.UnitsWithout
  have hstep (s s' : Store) (hchange : s.Change s') (hs : inv s) : inv s' :=
    ⟨hchange.groupsInStep hs.1, hchange.unitsWithout hs.1 hs.2⟩
  have hboth : inv (start.after script).store :=
    after_invariant ⟨Store.groupsInStep_empty, Store.unitsWithout_empty⟩ hstep hscript
  exact hboth.2

/-- Along accepted steps, batches whose entries hold no semicolon come apart at their semicolons, and
units that hold the text of their parts, as they do where no clause is edited directly, at the first
closing bracket and at their commas; so does every unit that is made by calls of its own. And what the
grammar puts itself never looks like a separator: a sub-command starts with no bracket and has no
delimiter but of its texts, and no command has a semicolon but of its texts. -/
theorem texts_come_apart (hscript : Along Accepts start script) :
    (∀ (i : Nat) b, (start.after script).store.batches[i]? = some b → b.commands ≠ [] →
      (∀ entry ∈ b.commands,
        entry.Without ';' ((start.after script).store.BuilderWithout ';')) →
      (start.after script).store.BatchParts b) ∧
    (∀ (i : Nat) u, (start.after script).store.units[i]? = some u →
      Along Orderly start script ∨
        unitText (start.after script).store.texts u.clause u.commands = .ok u.text →
      u.commands ≠ [] → Value.WithoutAll ',' (fun _ => True) u.commands →
      (∀ c, u.clause = some c → (start.after script).store.ClauseWithout ']' c) →
      (start.after script).store.UnitParts u) ∧
    (∀ (s : Store) (moves : List Move) cs ss,
      (Move.criteria moves).mapM Value.readCriterion = .ok cs →
      (Move.commands moves).mapM Value.readSubCommand = .ok ss → Move.commands moves ≠ [] →
      Value.WithoutAll ',' (fun _ => True) (Move.commands moves) →
      Value.WithoutAll ']' (fun _ => True) (Move.criteria moves) →
      ∃ i s' u, (assemble moves).run s = .ok i s' ∧ s'.units[i]? = some u ∧
        u.commands = Move.commands moves ∧ s'.criteriaOf u = Move.criteria moves ∧
        s'.UnitParts u) ∧
    (∀ (value : Value) command, value.readSubCommand = .ok command →
      command.render.toList.head? ≠ some '[' ∧ ∀ d ∈ delimiters,
        value.Without d (fun _ => True) → Lacks d command.render) ∧
    ∀ (value : Value) (texts : Ref → String) (builder : Ref → Prop) text,
      value.commandText texts = .ok text → value.Without ';' builder →
      (∀ ref, builder ref → Lacks ';' (texts ref)) → Lacks ';' text := by
  have hgroups := after_groupsInStep hscript
  have hbatches := after_batchesInStep hscript
  have hunits := after_unitsWithout hscript
  have hwf := (after_wellFormed wellFormed_start script).store
  refine ⟨?_, ?_, ?_, ?_, ?_⟩
  · intro i b hb hne hwithout
    exact hbatches.parts hgroups hunits hb hne hwithout
  · intro i u hu hinStep hne hcommands hclause
    have htext : unitText (start.after script).store.texts u.clause u.commands = .ok u.text :=
      hinStep.elim (fun horderly => (after_inStep horderly).units i u hu) fun htext => htext
    refine Store.unitParts_of_text htext (fun c hc => ?_) hne hcommands hclause
    obtain ⟨g, hg, -⟩ := (hwf.units i u hu).clause c hc
    exact ⟨g, hg, hgroups c g hg⟩
  · intro s moves cs ss hcs hss hne hcommands hcriteria
    exact assemble_parts s hcs hss hne hcommands hcriteria
  · intro value command hread
    obtain ⟨first, hfirst, hplain⟩ := command.head?_render
    refine ⟨fun hbracket => hplain ?_, fun d hd hwithout => ?_⟩
    · rw [hfirst] at hbracket
      exact Option.some.inj hbracket
    · exact command.lacks_render hd (Value.gives_readSubCommand hd hwithout command hread)
  · intro value texts builder text hread hwithout htexts
    exact Value.gives_commandText (by decide) (fun i => htexts (.group i))
      (fun i => htexts (.unit i)) (by decide) value hwithout text hread

/-- A unit as its own calls made it, and one whose clause is edited directly, in a batch with a line of
text and a rule around it. -/
def mixedBatch : List Step :=
  [.assign "plain" (.unit [(.criterion, .record (.criterion .tiling) []),
      (.command, .record (.subCommand .kill) []), (.command, .record (.subCommand .kill) [])] false),
    .assign "unit" (.unit [(.criterion, .record (.criterion (.property .title))
        [("value", .literal (.text "a,b"))]),
      (.command, .record (.subCommand .kill) []),
      (.command, .record (.subCommand .mark) [("identifier", .literal (.text "x]y"))])] false),
    .call "unit" .criteria (some "clause"),
    .call "clause" (.add (.record (.criterion .tiling) [])) none,
    .assign "rule" (.record (.topLevel .forWindow)
      [("criteria", .slot "clause"), ("command", .slot "unit")]),
    .assign "batch" (.batch [.slot "unit", .literal (.text "nop"), .slot "rule"])]

/-- A criterion that names a comma, and a sub-command that names a closing bracket. -/
def titledMoves : List Move :=
  [.command (.record (.subCommand .kill) []),
    .criterion (.record (.criterion (.property .title)) [.text "a,b"]),
    .command (.record (.subCommand .mark) [.text "x]y", .keyword ⟨"MarkMode", "ADD", "--add"⟩])]

theorem mixedBatch_comes_apart :
    (∃ b, (start.after mixedBatch).store.batches[0]? = some b ∧
      (start.after mixedBatch).store.BatchParts b ∧ piecesAt ';' b.text =
        ["[title=\"a,b\"]kill,mark --replace x]y", "nop",
          "for_window [title=\"a,b\" tiling] [title=\"a,b\"]kill,mark --replace x]y"]) ∧
    (∃ u, (start.after mixedBatch).store.units[0]? = some u ∧
      (start.after mixedBatch).store.UnitParts u ∧ through ']' u.text = "[tiling]") ∧
    ∃ i s' u, (assemble titledMoves).run .empty = .ok i s' ∧ s'.units[i]? = some u ∧
      s'.UnitParts u := by
  have haccepts : Along Accepts start mixedBatch :=
    ⟨accepts_of_ok rfl, accepts_of_ok rfl, accepts_of_ok rfl, accepts_of_ok rfl, accepts_of_ok rfl,
      accepts_of_ok rfl, trivial⟩
  obtain ⟨hbatches, hunits, hcalls, -, -⟩ := texts_come_apart haccepts
  refine ⟨⟨_, rfl, hbatches 0 _ rfl (by decide) (by decide +kernel), by decide +kernel⟩,
    ⟨_, rfl, hunits 0 _ rfl (.inr rfl) (by decide) (by decide +kernel) (by decide +kernel),
      by decide +kernel⟩, ?_⟩
  obtain ⟨i, s', u, hrun, hu, -, -, hparts⟩ :=
    hcalls .empty titledMoves [.property .title (.word "a,b")] [.kill, .mark "x]y" .add]
      rfl rfl (by decide) (by decide +kernel) (by decide +kernel)
  exact ⟨i, s', u, hrun, hu, hparts⟩

end Session

end SwayControl
