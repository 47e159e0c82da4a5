import SwayControl.Proofs.Builder.Sameness
import SwayControl.Proofs.Builder.Operation

/-!
A unit built by calls in any order. Criteria and sub-commands may come interleaved, and at any point a
copy may be taken and gone on with: the unit at the end depends on the criteria in their order and on the
sub-commands in theirs, and on nothing else. What does depend on the order is how often the text was
written anew.
-/

namespace SwayControl

/-- A call on the way to a unit: something is added, or a copy is taken to go on with. -/
inductive Move where
  | criterion (value : Value)
  | command (value : Value)
  | copy

namespace Move

/-- The criteria that are added, in order. -/
def criteria : List Move → List Value
  | [] => []
  | .criterion value :: rest => value :: criteria rest
  | _ :: rest => criteria rest

/-- The sub-commands that are added, in order. -/
def commands : List Move → List Value
  | [] => []
  | .command value :: rest => value :: commands rest
  | _ :: rest => commands rest

/-- For each criterion that finds sub-commands, how many it finds, if there are some to begin with. -/
def lateCounts : Nat → List Move → List Nat
  | _, [] => []
  | count, .criterion _ :: rest =>
    if count = 0 then lateCounts count rest else count :: lateCounts count rest
  | count, .command _ :: rest => lateCounts (count + 1) rest
  | count, .copy :: rest => lateCounts count rest

/-- Makes a call on a unit: the unit to go on with. -/
def perform (index : Nat) : Move → Building Nat
  | .criterion value => do
    Building.addCriterion index value
    return index
  | .command value => do
    Building.addCommand index value
    return index
  | .copy => Building.copyUnit index

end Move

namespace Building

/-- Makes calls on a unit one after another. -/
def play (index : Nat) : List Move → Building Nat
  | [] => return index
  | move :: rest => do play (← move.perform index) rest

/-- Makes a unit and then calls on it. -/
def assemble (moves : List Move) : Building Nat := do play (← startUnit) moves

end Building

/-- The text of a unit of criteria and sub-commands. -/
def assembledText (criteria : List Criterion) (commands : List SubCommand) : String :=
  (if criteria = [] then "" else bracketed (criteria.map Criterion.render)) ++
    subCommandSeparator.intercalate (commands.map SubCommand.render)

namespace Store

/-- A clause of given criteria, and no clause where there are none. -/
def HasClause (s : Store) (criteria : List Value) : Option Nat → Prop
  | none => criteria = []
  | some c => criteria ≠ [] ∧ ∃ g, s.groups[c]? = some g ∧ g.frozen = false ∧
      g.criteria = criteria ∧ clauseText criteria = .ok g.text

/-- An editable unit of given criteria and sub-commands, with the text that they make. -/
structure Assembled (s : Store) (i : Nat) (criteria commands : List Value) (u : TargetedUnit) :
    Prop where
  unit : s.units[i]? = some u
  editable : u.frozen = false
  commands : u.commands = commands
  text : unitText s.texts u.clause u.commands = .ok u.text
  clause : s.HasClause criteria u.clause

/-- A unit that came to a store, with its clause, while the builders of that store stayed. -/
structure Beside (base s : Store) (i : Nat) (u : TargetedUnit) : Prop where
  same : ∀ ref, base.Has ref → base.Same s ref
  unit : ¬ base.Has (.unit i)
  clause : ∀ c, u.clause = some c → ¬ base.Has (.group c)

variable {base s : Store} {i : Nat} {criteria commands : List Value} {u v : TargetedUnit}

theorem has_of_same (h : ∀ ref, base.Has ref → base.Same s ref) {ref : Ref} (href : base.Has ref) :
    s.Has ref := by
  have hsame := h ref href
  cases ref with
  | group c =>
      have hget : s.groups[c]? = base.groups[c]? := hsame
      rw [List.getElem?_eq_getElem href] at hget
      exact has_group hget
  | unit c =>
      have hget : s.units[c]? = base.units[c]? := hsame
      rw [List.getElem?_eq_getElem href] at hget
      exact has_unit hget
  | batch c =>
      have hget : s.batches[c]? = base.batches[c]? := hsame
      rw [List.getElem?_eq_getElem href] at hget
      exact has_batch hget

theorem Beside.addGroup (h : base.Beside s i u) (g : CriteriaGroup) :
    base.Beside (s.addGroup g) i u where
  same ref href := by
    have hsame := h.same ref href
    have hhas := has_of_same h.same href
    cases ref with
    | group c => exact (List.getElem?_append_left hhas).trans hsame
    | unit c => exact hsame
    | batch c => exact hsame
  unit := h.unit
  clause := h.clause

theorem Beside.setUnit (h : base.Beside s i u)
    (hclause : ∀ c, v.clause = some c → ¬ base.Has (.group c)) :
    base.Beside (s.setUnit i v) i v where
  same ref href := by
    have hsame := h.same ref href
    cases ref with
    | group c => exact hsame
    | unit j =>
        have hij : i ≠ j := by
          rintro rfl
          exact h.unit href
        exact (List.getElem?_set_ne hij).trans hsame
    | batch c => exact hsame
  unit := h.unit
  clause := hclause

theorem Beside.setClause (h : base.Beside s i u) {c : Nat} (hc : u.clause = some c)
    (g : CriteriaGroup) : base.Beside (s.setGroup c g) i u where
  same ref href := by
    have hsame := h.same ref href
    cases ref with
    | group d =>
        have hcd : c ≠ d := by
          rintro rfl
          exact h.clause c hc href
        exact (List.getElem?_set_ne hcd).trans hsame
    | unit j => exact hsame
    | batch b => exact hsame
  unit := h.unit
  clause := h.clause

theorem Beside.addUnit (h : base.Beside s i u)
    (hclause : ∀ c, v.clause = some c → ¬ base.Has (.group c)) :
    base.Beside (s.addUnit v) s.units.length v where
  same ref href := by
    have hsame := h.same ref href
    have hhas := has_of_same h.same href
    cases ref with
    | group c => exact hsame
    | unit j => exact (List.getElem?_append_left hhas).trans hsame
    | batch b => exact hsame
  unit hhas := Nat.lt_irrefl _ (has_of_same h.same hhas)
  clause := hclause

theorem Beside.rebuilt (h : base.Beside s i u) (w : TargetedUnit) :
    base.Beside (s.rebuilt w) i u := by
  unfold Store.rebuilt
  split
  · exact h
  · exact ⟨fun ref href => by cases ref <;> exact h.same _ href, h.unit, h.clause⟩

theorem Assembled.rebuilt (h : s.Assembled i criteria commands u) (w : TargetedUnit) :
    (s.rebuilt w).Assembled i criteria commands u := by
  unfold Store.rebuilt
  split
  · exact h
  · exact ⟨h.unit, h.editable, h.commands, h.text, h.clause⟩

theorem rebuilds_rebuilt (s : Store) (w : TargetedUnit) :
    (s.rebuilt w).rebuilds =
      s.rebuilds ++ if w.commands.length = 0 then [] else [w.commands.length] := by
  unfold Store.rebuilt
  cases w.commands <;> simp [noted]

theorem assembled_fresh (s : Store) :
    (s.addUnit ⟨none, [], "", false⟩).Assembled s.units.length [] [] ⟨none, [], "", false⟩ where
  unit := List.getElem?_concat_length
  editable := rfl
  commands := rfl
  text := rfl
  clause := rfl

theorem beside_fresh (s : Store) :
    s.Beside (s.addUnit ⟨none, [], "", false⟩) s.units.length ⟨none, [], "", false⟩ where
  same ref href := by
    cases ref with
    | group c => rfl
    | unit j => exact List.getElem?_append_left href
    | batch b => rfl
  unit hhas := Nat.lt_irrefl _ hhas
  clause _ h := by cases h

end Store

namespace Building

variable {base s : Store} {i : Nat} {criteria commands : List Value} {u : TargetedUnit}
  {value : Value}

/-- The sub-commands of an assembled unit can be written. -/
theorem written_of_assembled (h : s.Assembled i criteria commands u) :
    ∃ written, (u.commands.mapM fun command => SubCommand.render <$> command.readSubCommand) =
      Except.ok written := by
  cases hread : u.commands.mapM fun command => SubCommand.render <$> command.readSubCommand with
  | ok written => exact ⟨written, rfl⟩
  | error refusal =>
      have htext := h.text
      simp only [unitText, hread] at htext
      cases htext

theorem addCommand_assembles (h : s.Assembled i criteria commands u) (hbeside : base.Beside s i u)
    {command : SubCommand} (hvalue : value.readSubCommand = .ok command) :
    ∃ s' u', (addCommand i value).run s = .ok () s' ∧
      s'.Assembled i criteria (commands ++ [value]) u' ∧ base.Beside s' i u' ∧
      s'.rebuilds = s.rebuilds := by
  refine ⟨_, _, run_addCommand_ok h.unit h.editable hvalue, ?_, hbeside.setUnit hbeside.clause, rfl⟩
  constructor
  · exact List.getElem?_set_self (Store.has_unit h.unit)
  · rfl
  · rw [← h.commands]
  · exact unitText_concat h.text hvalue
  · exact h.clause

theorem addCriterion_assembles (h : s.Assembled i criteria commands u) (hbeside : base.Beside s i u)
    {criterion : Criterion} (hvalue : value.readCriterion = .ok criterion) :
    ∃ s' u', (addCriterion i value).run s = .ok () s' ∧
      s'.Assembled i (criteria ++ [value]) commands u' ∧ base.Beside s' i u' ∧
      s'.rebuilds = s.rebuilds ++ (if commands.length = 0 then [] else [commands.length]) := by
  obtain ⟨written, hwritten⟩ := written_of_assembled h
  have hi := Store.has_unit h.unit
  have hclause := h.clause
  cases hc : u.clause with
  | none =>
      rw [hc] at hclause
      obtain rfl : criteria = [] := hclause
      -- the first criterion opens a clause: a new group, so none of the builders beside the unit
      refine ⟨_, ⟨some s.groups.length, u.commands,
          bracketed [criterion.render] ++ subCommandSeparator.intercalate written, false⟩,
        run_addCriterion_open h.unit h.editable hc hvalue hwritten, ?_, ?_, ?_⟩
      · apply Store.Assembled.rebuilt
        refine ⟨List.getElem?_set_self hi, rfl, h.commands, ?_, List.cons_ne_nil _ _, _,
          List.getElem?_concat_length, rfl, rfl, clauseText_singleton hvalue⟩
        rw [unitText_of_written hwritten]
        simp [Store.texts, Store.setUnit, Store.addGroup]
      · apply Store.Beside.rebuilt
        apply (hbeside.addGroup _).setUnit
        rintro c ⟨⟩ hhas
        exact Nat.lt_irrefl _ (Store.has_of_same hbeside.same hhas)
      · rw [Store.rebuilds_rebuilt, h.commands]
        rfl
  | some c =>
      rw [hc] at hclause
      obtain ⟨hne, g, hg, hgfrozen, rfl, htext⟩ := hclause
      have hlt := Store.has_group hg
      refine ⟨_, ⟨some c, u.commands, extendClause g.text criterion.render ++
          subCommandSeparator.intercalate written, false⟩,
        run_addCriterion_extend h.unit h.editable hc hg hgfrozen hvalue hwritten, ?_, ?_, ?_⟩
      · apply Store.Assembled.rebuilt
        refine ⟨List.getElem?_set_self hi, rfl, h.commands, ?_, by simp, _,
          List.getElem?_set_self hlt, rfl, rfl, clauseText_concat htext hne hvalue⟩
        rw [unitText_of_written hwritten]
        simp [Store.texts, Store.setUnit, Store.setGroup, List.getElem?_set_self hlt]
      · apply Store.Beside.rebuilt
        apply (hbeside.setClause hc _).setUnit
        rintro d ⟨⟩
        exact hbeside.clause c hc
      · rw [Store.rebuilds_rebuilt, h.commands]
        rfl

theorem copyUnit_assembles (h : s.Assembled i criteria commands u) (hbeside : base.Beside s i u) :
    ∃ j s' u', (copyUnit i).run s = .ok j s' ∧
      s'.Assembled j criteria commands u' ∧ base.Beside s' j u' ∧ s'.rebuilds = s.rebuilds := by
  have hclause := h.clause
  cases hc : u.clause with
  | none =>
      rw [hc] at hclause
      refine ⟨_, _, ⟨none, u.commands, u.text, false⟩, run_copyUnit_bare h.unit hc, ?_,
        hbeside.addUnit ?_, rfl⟩
      · have htext := h.text
        rw [hc] at htext
        exact ⟨List.getElem?_concat_length, rfl, h.commands, htext, hclause⟩
      · rintro c ⟨⟩
  | some c =>
      rw [hc] at hclause
      obtain ⟨hne, g, hg, hgfrozen, rfl, hgtext⟩ := hclause
      refine ⟨_, _, ⟨some s.groups.length, u.commands, u.text, false⟩,
        run_copyUnit_clause h.unit hc hg, ?_, ?_, rfl⟩
      · refine ⟨List.getElem?_concat_length, rfl, h.commands, ?_, hne, _,
          List.getElem?_concat_length, rfl, rfl, hgtext⟩
        have htext := h.text
        rw [hc] at htext
        simpa [unitText, Store.texts, Store.addUnit, Store.addGroup, hg] using htext
      · apply (hbeside.addGroup _).addUnit
        rintro d ⟨⟩ hhas
        exact Nat.lt_irrefl _ (Store.has_of_same hbeside.same hhas)

/-- Calls whose criteria and sub-commands can be written all succeed and add what they are given, and note
each criterion that came late. -/
theorem play_assembles {moves : List Move} (h : s.Assembled i criteria commands u)
    (hbeside : base.Beside s i u)
    (hcriteria : ∀ value ∈ Move.criteria moves, ∃ criterion, value.readCriterion = .ok criterion)
    (hcommands : ∀ value ∈ Move.commands moves, ∃ command, value.readSubCommand = .ok command) :
    ∃ j s' u', (play i moves).run s = .ok j s' ∧
      s'.Assembled j (criteria ++ Move.criteria moves) (commands ++ Move.commands moves) u' ∧
      base.Beside s' j u' ∧
      s'.rebuilds = s.rebuilds ++ Move.lateCounts commands.length moves := by
  -- a copy goes on under another index, so the unit that is played on varies with the store
  induction moves generalizing s i criteria commands u with
  | nil =>
      refine ⟨i, s, u, rfl, ?_, hbeside, (List.append_nil _).symm⟩
      simpa only [Move.criteria, Move.commands, List.append_nil] using h
  | cons move rest ih =>
      cases move with
      | criterion value =>
          obtain ⟨hvalue, hrest⟩ := List.forall_mem_cons.mp hcriteria
          obtain ⟨criterion, hread⟩ := hvalue
          obtain ⟨s₁, u₁, hrun, h₁, hbeside₁, hrebuilds⟩ := addCriterion_assembles h hbeside hread
          obtain ⟨j, s', u', hplay, h', hbeside', hlate⟩ := ih h₁ hbeside₁ hrest hcommands
          refine ⟨j, s', u', ?_, ?_, hbeside', ?_⟩
          · have hmove : ((Move.criterion value).perform i).run s = .ok i s₁ := run_bind_ok hrun
            exact (run_bind_ok hmove).trans hplay
          · rwa [List.append_assoc] at h'
          · rw [hlate, hrebuilds, Move.lateCounts]
            by_cases hcount : commands.length = 0 <;> simp [hcount]
      | command value =>
          obtain ⟨hvalue, hrest⟩ := List.forall_mem_cons.mp hcommands
          obtain ⟨command, hread⟩ := hvalue
          obtain ⟨s₁, u₁, hrun, h₁, hbeside₁, hrebuilds⟩ := addCommand_assembles h hbeside hread
          obtain ⟨j, s', u', hplay, h', hbeside', hlate⟩ := ih h₁ hbeside₁ hcriteria hrest
          refine ⟨j, s', u', ?_, ?_, hbeside', ?_⟩
          · have hmove : ((Move.command value).perform i).run s = .ok i s₁ := run_bind_ok hrun
            exact (run_bind_ok hmove).trans hplay
          · rwa [List.append_assoc] at h'
          · rw [hlate, hrebuilds, List.length_append, List.length_singleton, Move.lateCounts]
      | copy =>
          obtain ⟨k, s₁, u₁, hrun, h₁, hbeside₁, hrebuilds⟩ := copyUnit_assembles h hbeside
          obtain ⟨j, s', u', hplay, h', hbeside', hlate⟩ := ih h₁ hbeside₁ hcriteria hcommands
          refine ⟨j, s', u', ?_, h', hbeside', ?_⟩
          · have hmove : (Move.copy.perform i).run s = .ok k s₁ := hrun
            exact (run_bind_ok hmove).trans hplay
          · rw [hlate, hrebuilds, Move.lateCounts]

/-- The text of an assembled unit is that of its criteria and sub-commands. -/
theorem text_of_assembled (h : s.Assembled i criteria commands u) {cs : List Criterion}
    {ss : List SubCommand} (hcs : criteria.mapM Value.readCriterion = .ok cs)
    (hss : commands.mapM Value.readSubCommand = .ok ss) : u.text = assembledText cs ss := by
  have hwritten := mapM_map_ok SubCommand.render hss
  have htext := h.text
  rw [h.commands, unitText_of_written hwritten] at htext
  have hclause := h.clause
  cases hc : u.clause with
  | none =>
      rw [hc] at hclause htext
      obtain rfl : criteria = [] := hclause
      obtain rfl : cs = [] := (mapM_ok_eq_nil_iff hcs).mpr rfl
      exact (Except.ok.inj htext).symm
  | some c =>
      rw [hc] at hclause htext
      obtain ⟨hne, g, hg, -, -, hgtext⟩ := hclause
      have hcs' : cs ≠ [] := mt (mapM_ok_eq_nil_iff hcs).mp hne
      have hbracketed : bracketed (cs.map Criterion.render) = g.text := by
        rw [clauseText, hcs] at hgtext
        exact Except.ok.inj hgtext
      rw [← Except.ok.inj htext, assembledText, if_neg hcs', hbracketed]
      simp only [Option.elim_some, Store.texts, hg]

end Building

namespace Store

variable {base s s' : Store} {i j : Nat} {criteria commands : List Value} {u v : TargetedUnit}

/-- Two clauses of the same criteria are the same. -/
theorem sameBuilders_clause {c d : Nat} {g h : CriteriaGroup} (hg : s.groups[c]? = some g)
    (hh : s.groups[d]? = some h) (hcriteria : g.criteria = h.criteria) (depth : Nat) :
    s.sameBuilders (depth + 1) (.group c) (.group d) = true := by
  have hsame : g.same (s.sameBuilders depth) h = true := by
    rw [CriteriaGroup.same, hcriteria]
    exact Value.sameAll_self (s.sameBuilders_self depth) h.criteria
  simp only [sameBuilders, hg, hh, hsame, Bool.or_true]

/-- Units that are assembled of the same criteria and sub-commands are the same. -/
theorem same_of_assembled (h : s.Assembled i criteria commands u)
    (h' : s.Assembled j criteria commands v) (hij : i < j) :
    s.same (.builder (.unit i)) (.builder (.unit j)) = true := by
  -- both units and what they hold are within the depth of the store
  obtain ⟨depth, hdepth⟩ : ∃ depth, s.depth = depth + 2 := by
    have hj : j < s.units.length := has_unit h'.unit
    refine ⟨s.depth - 2, ?_⟩
    simp only [Store.depth]
    omega
  have hcommands : Value.sameAll (s.sameBuilders (depth + 1)) u.commands v.commands = true := by
    rw [h.commands, h'.commands]
    exact Value.sameAll_self (s.sameBuilders_self _) commands
  have hclause := h.clause
  have hclause' := h'.clause
  have hunits : u.same (s.sameBuilders (depth + 1)) v = true := by
    rw [TargetedUnit.same, hcommands, Bool.and_true]
    cases hc : u.clause <;> cases hd : v.clause <;> rw [hc] at hclause <;> rw [hd] at hclause'
    case none.some => exact absurd hclause hclause'.1
    case some.none => exact absurd hclause' hclause.1
    case some.some =>
      obtain ⟨-, g, hg, -, hcriteria, -⟩ := hclause
      obtain ⟨-, g', hg', -, hcriteria', -⟩ := hclause'
      exact sameBuilders_clause hg hg' (hcriteria.trans hcriteria'.symm) depth
  have hboth : s.sameBuilders (depth + 2) (.unit i) (.unit j) = true := by
    rw [sameBuilders]
    simp only [h.unit, h'.unit, hunits, Bool.or_true]
  rw [Store.same, hdepth, Value.same, hboth]

/-- An assembled unit is one in every store that has its builders as they are. -/
theorem Assembled.of_same (h : base.Assembled i criteria commands u)
    (hsame : ∀ ref, base.Has ref → base.Same s ref) : s.Assembled i criteria commands u := by
  have hunit : s.units[i]? = base.units[i]? := hsame _ (has_unit h.unit)
  have hgroup : ∀ c, u.clause = some c → s.groups[c]? = base.groups[c]? := by
    intro c hc
    have hclause := h.clause
    rw [hc] at hclause
    obtain ⟨-, g, hg, -⟩ := hclause
    exact hsame (.group c) (has_group hg)
  refine ⟨hunit.trans h.unit, h.editable, h.commands, ?_, ?_⟩
  · have htexts : ∀ c, u.clause = some c → s.texts (.group c) = base.texts (.group c) := by
      intro c hc
      simp only [texts, hgroup c hc]
    rw [← h.text]
    cases hc : u.clause with
    | none => rfl
    | some c => simp only [unitText, Option.elim_some, htexts c hc]
  · have hclause := h.clause
    cases hc : u.clause with
    | none => rwa [hc] at hclause
    | some c =>
        rw [hc] at hclause
        simp only [HasClause, hgroup c hc]
        exact hclause

end Store

namespace Building

variable {s : Store} {criteria commands : List Value} {cs : List Criterion} {ss : List SubCommand}

/-- A unit that is assembled beside what a store has. -/
theorem assemble_assembles (s : Store) {moves : List Move}
    (hcs : (Move.criteria moves).mapM Value.readCriterion = .ok cs)
    (hss : (Move.commands moves).mapM Value.readSubCommand = .ok ss) :
    ∃ i s' u, (assemble moves).run s = .ok i s' ∧
      s'.Assembled i (Move.criteria moves) (Move.commands moves) u ∧ s.Beside s' i u ∧
      s'.rebuilds = s.rebuilds ++ Move.lateCounts 0 moves := by
  obtain ⟨i, s', u, hrun, hassembled, hbeside, hrebuilds⟩ :=
    play_assembles (Store.assembled_fresh s) (Store.beside_fresh s) (exists_of_mapM_ok hcs)
      (exists_of_mapM_ok hss)
  exact ⟨i, s', u, (run_bind_ok run_startUnit).trans hrun, hassembled, hbeside, hrebuilds⟩

/-- Two units that are built by calls in any order, with copies taken on the way, but of the same criteria
and the same sub-commands, hold these, have the text of these and are the same. Each criterion that came
after a sub-command is noted once, with the number of sub-commands there were; nothing else is noted, and
no builder that was there before has changed. -/
theorem interleavings_agree (s : Store) (left right : List Move)
    (hcs : (Move.criteria left).mapM Value.readCriterion = .ok cs)
    (hss : (Move.commands left).mapM Value.readSubCommand = .ok ss)
    (hcriteria : Move.criteria right = Move.criteria left)
    (hcommands : Move.commands right = Move.commands left) :
    ∃ i s₁ u j s₂ v, (assemble left).run s = .ok i s₁ ∧ (assemble right).run s₁ = .ok j s₂ ∧
      s₂.Assembled i (Move.criteria left) (Move.commands left) u ∧
      s₂.Assembled j (Move.criteria left) (Move.commands left) v ∧
      u.text = assembledText cs ss ∧ v.text = assembledText cs ss ∧
      s₂.same (.builder (.unit i)) (.builder (.unit j)) = true ∧
      s₁.rebuilds = s.rebuilds ++ Move.lateCounts 0 left ∧
      s₂.rebuilds = s₁.rebuilds ++ Move.lateCounts 0 right ∧
      ∀ ref, s.Has ref → s.Same s₂ ref := by
  obtain ⟨i, s₁, u, hleft, hu, hbeside, hrebuilds⟩ := assemble_assembles s hcs hss
  rw [← hcriteria] at hcs
  rw [← hcommands] at hss
  obtain ⟨j, s₂, v, hright, hv, hbeside', hrebuilds'⟩ := assemble_assembles s₁ hcs hss
  rw [hcriteria, hcommands] at hv
  rw [hcriteria] at hcs
  rw [hcommands] at hss
  have hu' := hu.of_same hbeside'.same
  have hij : i < j := by
    have hi : i < s₁.units.length := Store.has_unit hu.unit
    have hj : ¬ j < s₁.units.length := hbeside'.unit
    omega
  refine ⟨i, s₁, u, j, s₂, v, hleft, hright, hu', hv, text_of_assembled hu' hcs hss,
    text_of_assembled hv hcs hss, Store.same_of_assembled hu' hv hij, hrebuilds, hrebuilds', ?_⟩
  intro ref href
  exact (hbeside.same ref href).trans (hbeside'.same ref (Store.has_of_same hbeside.same href))

/-- A criterion before the sub-command and one after it. -/
def lateMoves : List Move :=
  [.criterion (.record (.criterion .floating) []), .command (.record (.subCommand .kill) []),
    .criterion (.record (.criterion .tiling) [])]

/-- The same after the sub-command, with a copy taken in between. -/
def copiedMoves : List Move :=
  [.command (.record (.subCommand .kill) []), .criterion (.record (.criterion .floating) []), .copy,
    .criterion (.record (.criterion .tiling) [])]

theorem lateMoves_copiedMoves_agree :
    ∃ i s₁ u j s₂ v, (assemble lateMoves).run .empty = .ok i s₁ ∧
      (assemble copiedMoves).run s₁ = .ok j s₂ ∧
      s₂.units[i]? = some u ∧ s₂.units[j]? = some v ∧
      u.text = "[floating tiling]kill" ∧ v.text = "[floating tiling]kill" ∧
      s₂.same (.builder (.unit i)) (.builder (.unit j)) = true ∧
      s₁.rebuilds = [1] ∧ s₂.rebuilds = [1, 1, 1] := by
  have hcs : (Move.criteria lateMoves).mapM Value.readCriterion = .ok [.floating, .tiling] := rfl
  have hss : (Move.commands lateMoves).mapM Value.readSubCommand = .ok [.kill] := rfl
  obtain ⟨i, s₁, u, j, s₂, v, hleft, hright, hu, hv, htext, htext', hsame, hrebuilds, hrebuilds', -⟩ :=
    interleavings_agree Store.empty lateMoves copiedMoves hcs hss rfl rfl
  refine ⟨i, s₁, u, j, s₂, v, hleft, hright, hu.unit, hv.unit, ?_, ?_, hsame, ?_, ?_⟩
  · rw [htext]; decide
  · rw [htext']; decide
  · rw [hrebuilds]; decide
  · rw [hrebuilds', hrebuilds]; decide

end Building

end SwayControl
