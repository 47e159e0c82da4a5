import SwayControl.Proofs.Builder.Accepted
import SwayControl.Proofs.Builder.Collection
import SwayControl.Proofs.Builder.LiveClause

/-!
Groups and what they gather. An operation that does not add to a group leaves the criteria of all groups
as they are and founds new ones behind them: a group of the criteria that are listed, in their order,
a clause of those that come to a unit, or a copy of a group as it stands. Which ones, and in which
order, is told of every operation by what it is given.
-/

namespace SwayControl

namespace Store

/-- The criteria of all groups. -/
def clauses (s : Store) : List (List Value) := s.groups.map CriteriaGroup.criteria

/-- The criteria of the clause of a unit, if it has one. -/
def clausesOf (s : Store) (u : TargetedUnit) : List (List Value) :=
  (u.clause.bind fun c => s.clauses[c]?).toList

/-- What is founded by a copy of a builder: a group with the criteria that it, or its clause, has. -/
def copies (s : Store) : Ref → List (List Value)
  | .group i => (s.clauses[i]?).toList
  | .unit i => (s.units[i]?).elim [] s.clausesOf
  | .batch _ => []

/-- What is founded when a builder is frozen: nothing if it is frozen already. The clause of a unit is
copied twice. -/
def frozenCopies (s : Store) : Ref → List (List Value)
  | .group i => (s.groups[i]?).elim [] fun g => if g.frozen then [] else [g.criteria]
  | .unit i => (s.units[i]?).elim [] fun u =>
    if u.frozen then [] else s.clausesOf u ++ s.clausesOf u
  | .batch _ => []

/-- What is founded when a command is kept. -/
def entryCopies (s : Store) : Value → List (List Value)
  | .builder (.unit i) => s.frozenCopies (.unit i)
  | _ => []

/-- What is founded when the criteria of a rule are kept. -/
def criteriaCopies (s : Store) : Value → List (List Value)
  | .builder (.group i) => s.frozenCopies (.group i)
  | _ => []

/-- What is founded when a record of some form is made. -/
def recordCopies (s : Store) (form : Form) (fields : List Value) : List (List Value) :=
  match form, fields with
  | .topLevel .assignToWorkspace, [criteria, _] => s.criteriaCopies criteria
  | .topLevel .assignToOutput, [criteria, _] => s.criteriaCopies criteria
  | .topLevel .noFocus, [criteria] => s.criteriaCopies criteria
  | .topLevel .forWindow, [criteria, command] => s.criteriaCopies criteria ++ s.entryCopies command
  | .topLevel .bindsym, [_, command, _] => s.entryCopies command
  | .topLevel .bindcode, [_, command, _] => s.entryCopies command
  | .topLevel .bindswitch, [_, _, command, _] => s.entryCopies command
  | _, _ => []

variable {s s' : Store} {c : Nat}

theorem getElem?_clauses (s : Store) (c : Nat) :
    s.clauses[c]? = (s.groups[c]?).map CriteriaGroup.criteria := List.getElem?_map

theorem clauses_addGroup (s : Store) (g : CriteriaGroup) :
    (s.addGroup g).clauses = s.clauses ++ [g.criteria] := List.map_append

theorem clausesOf_none {u : TargetedUnit} (hc : u.clause = none) : s.clausesOf u = [] := by
  simp [clausesOf, hc]

theorem clausesOf_some {u : TargetedUnit} {g : CriteriaGroup} (hc : u.clause = some c)
    (hg : s.groups[c]? = some g) : s.clausesOf u = [g.criteria] := by
  simp [clausesOf, hc, getElem?_clauses, hg]

/-- Where builders stay as they are, freezing one founds the same. -/
theorem StaysIn.frozenCopies_eq (h : s.StaysIn s') (hwf : s.WellFormed) {ref : Ref}
    (href : s.Has ref) : s'.frozenCopies ref = s.frozenCopies ref := by
  cases ref with
  | group i =>
      have hsame : s'.groups[i]? = s.groups[i]? := h (.group i) href
      simp only [frozenCopies, hsame]
  | unit i =>
      have hsame : s'.units[i]? = s.units[i]? := h (.unit i) href
      simp only [frozenCopies, hsame]
      cases hu : s.units[i]? with
      | none => rfl
      | some u =>
          have hclause : s'.clausesOf u = s.clausesOf u := by
            cases hc : u.clause with
            | none => rw [clausesOf_none hc, clausesOf_none hc]
            | some c =>
                have hgroup : s'.groups[c]? = s.groups[c]? :=
                  h (.group c) (hwf.has_clause hu hc)
                simp only [clausesOf, hc, Option.bind_some, getElem?_clauses, hgroup]
          simp only [Option.elim_some, hclause]
  | batch i => rfl

theorem StaysIn.entryCopies_eq (h : s.StaysIn s') (hwf : s.WellFormed) {v : Value} (hv : s.Holds v) :
    s'.entryCopies v = s.entryCopies v := by
  cases v with
  | builder ref =>
      cases ref with
      | unit i =>
          have href : s.Has (.unit i) := hv
          exact h.frozenCopies_eq hwf href
      | _ => rfl
  | _ => rfl

end Store

namespace Building

open Store

variable {α β : Type} {s s' : Store} {i : Nat} {v : Value} {x : Building α} {f : α → Building β}
  {new more : List (List Value)}

/-- What follows an operation that answers, and nothing where it fails. -/
def behind (x : Building α) (s : Store) (next : α → Store → List β) : List β :=
  match x.run s with
  | .ok a s' => next a s'
  | .error _ _ => []

/-- Whether an operation, when it answers, leaves the criteria of all groups as they are and founds
groups of some criteria behind them. -/
def Founds (x : Building α) (s : Store) (new : List (List Value)) : Prop :=
  ∀ a s', x.run s = .ok a s' → s'.clauses = s.clauses ++ new

theorem run_bind_eq_ok {b : β} (h : (x >>= f).run s = .ok b s') :
    ∃ a t, x.run s = .ok a t ∧ (f a).run t = .ok b s' := by
  cases hrun : x.run s with
  | error fault t =>
      rw [run_bind_error hrun] at h
      cases h
  | ok a t =>
      rw [run_bind_ok hrun] at h
      exact ⟨a, t, rfl, h⟩

theorem behind_ok {γ : Type} {a : α} (hrun : x.run s = .ok a s') (next : α → Store → List γ) :
    behind x s next = next a s' := by
  simp only [behind, hrun]

theorem Founds.of_ok {a : α} (hrun : x.run s = .ok a s') (h : s'.clauses = s.clauses ++ new) :
    Founds x s new := by
  intro b t hrun'
  rw [hrun] at hrun'
  cases hrun'
  exact h

/-- An operation that fails founds whatever is asked. -/
theorem Founds.of_error {fault : Fault} (hrun : x.run s = .error fault s') : Founds x s new := by
  intro b t hrun'
  rw [hrun] at hrun'
  cases hrun'

theorem Founds.pure (a : α) : Founds (pure a) s [] :=
  Founds.of_ok (EStateM.run_pure a s) (List.append_nil _).symm

/-- What follows founds its groups behind those that the first operation founds. -/
theorem Founds.bind_run {next : α → Store → List (List Value)} (hx : Founds x s new)
    (hf : ∀ a t, x.run s = .ok a t → Founds (f a) t (next a t)) :
    Founds (x >>= f) s (new ++ behind x s next) := by
  intro b s' hrun
  obtain ⟨a, t, hfirst, hsecond⟩ := run_bind_eq_ok hrun
  rw [hf a t hfirst b s' hsecond, hx a t hfirst, behind_ok hfirst, List.append_assoc]

/-- What an operation guarantees may be used of the store that the next one starts from. -/
theorem Founds.bind_runs {direct : Prop} {h : History} {post : α → Store → Prop}
    {next : α → Store → List (List Value)} (hx : Founds x s new)
    (hruns : Runs (fun _ => False) direct h x s post)
    (hf : ∀ a t, s.Leads (fun _ => False) t → post a t → Founds (f a) t (next a t)) :
    Founds (x >>= f) s (new ++ behind x s next) := by
  apply hx.bind_run
  intro a t hrun
  obtain ⟨hleads, hpost⟩ := hruns.answered hrun
  exact hf a t hleads hpost

theorem Founds.bind (hx : Founds x s new) (hf : ∀ a t, x.run s = .ok a t → Founds (f a) t more) :
    Founds (x >>= f) s (new ++ more) := by
  intro b s' hrun
  obtain ⟨a, t, hfirst, hsecond⟩ := run_bind_eq_ok hrun
  rw [hf a t hfirst b s' hsecond, hx a t hfirst, List.append_assoc]

/-- What follows may found nothing. -/
theorem Founds.bind_quiet (hx : Founds x s new) (hf : ∀ a t, x.run s = .ok a t → Founds (f a) t []) :
    Founds (x >>= f) s new := by
  have hbind := hx.bind hf
  rwa [List.append_nil] at hbind

theorem Founds.bind_pure {g : α → β} (hx : Founds x s new) :
    Founds (x >>= fun a => Pure.pure (g a)) s new :=
  hx.bind_quiet fun a _ _ => Founds.pure (g a)

theorem Founds.map {g : α → β} (hx : Founds x s new) : Founds (g <$> x) s new := by
  rw [map_eq_pure_bind]
  exact hx.bind_pure

/-- The first operation may found nothing. -/
theorem Founds.quiet_bind (hx : Founds x s []) (hf : ∀ a t, x.run s = .ok a t → Founds (f a) t new) :
    Founds (x >>= f) s new := by
  have hbind := hx.bind hf
  rwa [List.nil_append] at hbind

theorem Reads.founds {post : α → Prop} (hx : Reads x s post) : Founds x s [] := by
  intro a s' hrun
  simp only [Reads, hrun] at hx
  rw [hx.1, List.append_nil]

/-! ### Groups -/

theorem copyGroup_founds (i : Nat) : Founds (copyGroup i) s (s.copies (.group i)) := by
  cases hg : s.groups[i]? with
  | none => exact .of_error (run_copyGroup_none hg)
  | some g =>
      apply Founds.of_ok (run_copyGroup hg)
      rw [clauses_addGroup, copies, getElem?_clauses, hg]
      rfl

theorem freezeGroup_founds (i : Nat) : Founds (freezeGroup i) s (s.frozenCopies (.group i)) := by
  cases hg : s.groups[i]? with
  | none => exact .of_error (run_freezeGroup_none hg)
  | some g =>
      cases hfrozen : g.frozen with
      | true =>
          apply Founds.of_ok (run_freezeGroup_frozen hg hfrozen)
          simp [frozenCopies, hg, hfrozen]
      | false =>
          apply Founds.of_ok (run_freezeGroup_copy hg hfrozen)
          rw [clauses_addGroup]
          simp [frozenCopies, hg, hfrozen]

/-- Criteria that are added one by one to the last group stand in it behind those it has. -/
theorem addAll_gathers {g : CriteriaGroup} {rest : List Value} (hopen : g.frozen = false)
    (hrun : (rest.forM (addToGroup s.groups.length)).run (s.addGroup g) = .ok () s') :
    ∃ g', s' = s.addGroup g' ∧ g'.criteria = g.criteria ++ rest ∧ g'.frozen = false := by
  induction rest generalizing g with
  | nil =>
      cases hrun
      exact ⟨g, rfl, (List.append_nil _).symm, hopen⟩
  | cons v later ih =>
      obtain ⟨_, t, hadd, hrest⟩ := run_bind_eq_ok hrun
      obtain ⟨last, criterion, hlast, -, -, rfl⟩ := run_addToGroup_inv hadd
      obtain rfl : g = last := Option.some.inj (List.getElem?_concat_length.symm.trans hlast)
      have hset (g' : CriteriaGroup) :
          (s.addGroup g).setGroup s.groups.length g' = s.addGroup g' := by
        simp [setGroup, addGroup]
      rw [hset] at hrest
      obtain ⟨g', rfl, hcriteria, hopen'⟩ := ih rfl hrest
      refine ⟨g', rfl, ?_, hopen'⟩
      rw [hcriteria, List.append_assoc]
      rfl

theorem groupOf_gathers {first : Value} {rest : List Value}
    (hrun : (groupOf first rest).run s = .ok i s') :
    i = s.groups.length ∧ ∃ g, s' = s.addGroup g ∧ g.criteria = first :: rest ∧ g.frozen = false := by
  obtain ⟨j, t, hstart, hrest⟩ := run_bind_eq_ok hrun
  cases hread : first.readCriterion with
  | error refusal =>
      rw [run_startGroup_error hread] at hstart
      cases hstart
  | ok criterion =>
      rw [run_startGroup_ok hread] at hstart
      cases hstart
      obtain ⟨_, t', hloop, hlast⟩ := run_bind_eq_ok hrest
      obtain ⟨g, rfl, hcriteria, hopen⟩ := addAll_gathers rfl hloop
      cases hlast
      exact ⟨rfl, g, rfl, hcriteria, hopen⟩

/-- A group has the criteria that are listed, in their order, and so has its frozen copy. -/
theorem buildGroup_founds (criteria : List Value) (frozen : Bool) :
    Founds (buildGroup criteria frozen) s (criteria :: if frozen then [criteria] else []) := by
  cases criteria with
  | nil => exact .of_error (run_refuse _)
  | cons first rest =>
      intro a s' hrun
      obtain ⟨i, t, hgroup, hlast⟩ := run_bind_eq_ok hrun
      obtain ⟨rfl, g, rfl, hcriteria, hopen⟩ := groupOf_gathers hgroup
      have hfirst := clauses_addGroup s g
      rw [hcriteria] at hfirst
      cases frozen with
      | false =>
          cases hlast
          exact hfirst
      | true =>
          have hfreeze := (freezeGroup_founds (s := s.addGroup g) s.groups.length).bind_pure a s' hlast
          rw [hfreeze, hfirst]
          simp [frozenCopies, addGroup, hopen, hcriteria]

/-! ### Units -/

/-- When a criterion is added to a unit, it comes to a clause of its own that the unit gets, or behind
those of the clause that the unit has. -/
theorem run_addCriterion_inv (hwf : s.WellFormed) (hrun : (addCriterion i v).run s = .ok () s') :
    ∃ u w, s.units[i]? = some u ∧ u.frozen = false ∧ s'.units = s.units.set i w ∧
      w.frozen = false ∧ ((u.clause = none ∧ w.clause = some s.groups.length ∧
        ∃ g, s'.groups = s.groups ++ [g] ∧ g.criteria = [v]) ∨
      ∃ c g g', u.clause = some c ∧ w.clause = some c ∧ s.groups[c]? = some g ∧
        s'.groups = s.groups.set c g' ∧ g'.criteria = g.criteria ++ [v]) := by
  cases hu : s.units[i]? with
  | none =>
      rw [run_addCriterion_none hu] at hrun
      cases hrun
  | some u =>
      cases hfrozen : u.frozen with
      | true =>
          rw [run_addCriterion_frozen hu hfrozen] at hrun
          cases hrun
      | false =>
          obtain ⟨written, hwritten⟩ := (hwf.units i u hu).written
          cases hc : u.clause with
          | none =>
              cases hread : v.readCriterion with
              | error refusal =>
                  rw [run_addCriterion_error_open hu hfrozen hc hread] at hrun
                  cases hrun
              | ok criterion =>
                  rw [run_addCriterion_open hu hfrozen hc hread hwritten] at hrun
                  cases hrun
                  exact ⟨u, _, rfl, hfrozen, rebuilt_units _ u, rfl,
                    .inl ⟨hc, rfl, _, rebuilt_groups _ u, rfl⟩⟩
          | some c =>
              obtain ⟨g, hg, hflag⟩ := (hwf.units i u hu).clause c hc
              have hopen : g.frozen = false := hflag.trans hfrozen
              cases hread : v.readCriterion with
              | error refusal =>
                  rw [run_addCriterion_error_extend hu hfrozen hc hg hopen hread] at hrun
                  cases hrun
              | ok criterion =>
                  rw [run_addCriterion_extend hu hfrozen hc hg hopen hread hwritten] at hrun
                  cases hrun
                  exact ⟨u, _, rfl, hfrozen, rebuilt_units _ u, rfl,
                    .inr ⟨c, g, _, hc, rfl, hg, rebuilt_groups _ u, rfl⟩⟩

/-- When a sub-command is added to a unit, groups and the clause of the unit stay. -/
theorem run_addCommand_inv (hrun : (addCommand i v).run s = .ok () s') :
    ∃ u w, s.units[i]? = some u ∧ s'.units[i]? = some w ∧ w.frozen = false ∧
      w.clause = u.clause ∧ s'.groups = s.groups := by
  cases hu : s.units[i]? with
  | none =>
      rw [run_addCommand_none hu] at hrun
      cases hrun
  | some u =>
      cases hfrozen : u.frozen with
      | true =>
          rw [run_addCommand_frozen hu hfrozen] at hrun
          cases hrun
      | false =>
          cases hread : v.readSubCommand with
          | error refusal =>
              rw [run_addCommand_error hu hfrozen hread] at hrun
              cases hrun
          | ok command =>
              rw [run_addCommand_ok hu hfrozen hread] at hrun
              cases hrun
              exact ⟨u, _, rfl, List.getElem?_set_self (has_unit hu), rfl, rfl, rfl⟩

theorem copyUnit_founds (hwf : s.WellFormed) (i : Nat) :
    Founds (copyUnit i) s (s.copies (.unit i)) := by
  cases hu : s.units[i]? with
  | none => exact .of_error (run_copyUnit_none hu)
  | some u =>
      have hcopies : s.copies (.unit i) = s.clausesOf u := by simp only [copies, hu, Option.elim_some]
      rw [hcopies]
      cases hc : u.clause with
      | none =>
          apply Founds.of_ok (run_copyUnit_bare hu hc)
          rw [clausesOf_none hc, List.append_nil]
          rfl
      | some c =>
          obtain ⟨g, hg, -⟩ := (hwf.units i u hu).clause c hc
          apply Founds.of_ok (run_copyUnit_clause hu hc hg)
          rw [clausesOf_some hc hg]
          exact clauses_addGroup s _

theorem freezeUnit_founds (hwf : s.WellFormed) (i : Nat) :
    Founds (freezeUnit i) s (s.frozenCopies (.unit i)) := by
  cases hu : s.units[i]? with
  | none => exact .of_error (run_freezeUnit_none hu)
  | some u =>
      cases hfrozen : u.frozen with
      | true =>
          apply Founds.of_ok (run_freezeUnit_frozen hu hfrozen)
          simp [frozenCopies, hu, hfrozen]
      | false =>
          have hcopies : s.frozenCopies (.unit i) = s.clausesOf u ++ s.clausesOf u := by
            simp [frozenCopies, hu, hfrozen]
          rw [hcopies]
          cases hc : u.clause with
          | none =>
              apply Founds.of_ok (run_freezeUnit_bare hu hfrozen hc)
              rw [clausesOf_none hc, List.append_nil, List.append_nil]
              rfl
          | some c =>
              obtain ⟨g, hg, -⟩ := (hwf.units i u hu).clause c hc
              apply Founds.of_ok (run_freezeUnit_clause hu hfrozen hc hg)
              rw [clausesOf_some hc hg, ← List.append_assoc, ← clauses_addGroup s ⟨g.criteria, g.text, false⟩,
                ← clauses_addGroup _ ⟨g.criteria, g.text, true⟩]
              rfl

/-- The criteria among the parts of a unit. -/
def criteriaIn (parts : List (UnitPart × Value)) : List Value :=
  parts.filterMap fun part => if part.1 = .criterion then some part.2 else none

/-- A unit that came last to a store and may be changed, and its clause that came as the last group if
there are criteria in it. -/
inductive Gathered (base s : Store) : List Value → Prop
  | bare {u : TargetedUnit} (hu : s.units[base.units.length]? = some u) (hopen : u.frozen = false)
    (hc : u.clause = none) (hgroups : s.groups = base.groups) : Gathered base s []
  | targeted {u : TargetedUnit} {g : CriteriaGroup} (hu : s.units[base.units.length]? = some u)
    (hopen : u.frozen = false) (hc : u.clause = some base.groups.length)
    (hgroups : s.groups = base.groups ++ [g]) (hne : g.criteria ≠ []) :
    Gathered base s g.criteria

variable {base : Store} {criteria : List Value}

theorem Gathered.criterion (h : Gathered base s criteria) (hwf : s.WellFormed)
    (hrun : (addCriterion base.units.length v).run s = .ok () s') :
    Gathered base s' (criteria ++ [v]) := by
  obtain ⟨u, w, hu, -, hunits, hopen, hclause⟩ := run_addCriterion_inv hwf hrun
  have hw : s'.units[base.units.length]? = some w := by
    rw [hunits]
    exact List.getElem?_set_self (has_unit hu)
  cases h with
  | bare hu' _ hc hgroups =>
      obtain rfl := Option.some.inj (hu.symm.trans hu')
      obtain ⟨-, hwc, g, hg, hcriteria⟩ | ⟨c, g, g', huc, -⟩ := hclause
      · rw [hgroups] at hwc hg
        rw [List.nil_append, ← hcriteria]
        exact .targeted hw hopen hwc hg (by simp [hcriteria])
      · rw [hc] at huc
        cases huc
  | @targeted _ g hu' _ hc hgroups _ =>
      obtain rfl := Option.some.inj (hu.symm.trans hu')
      obtain ⟨hnone, -⟩ | ⟨c, g₁, g', huc, hwc, hg, hset, hcriteria⟩ := hclause
      · rw [hc] at hnone
        cases hnone
      · obtain rfl := Option.some.inj (hc.symm.trans huc)
        rw [hgroups] at hg hset
        obtain rfl : g = g₁ := Option.some.inj (List.getElem?_concat_length.symm.trans hg)
        rw [← hcriteria]
        refine .targeted hw hopen hwc ?_ (by simp [hcriteria])
        rw [hset]
        simp

theorem Gathered.command (h : Gathered base s criteria)
    (hrun : (addCommand base.units.length v).run s = .ok () s') : Gathered base s' criteria := by
  obtain ⟨u, w, hu, hw, hopen, hclause, hsame⟩ := run_addCommand_inv hrun
  cases h with
  | bare hu' _ hc hgroups =>
      obtain rfl := Option.some.inj (hu.symm.trans hu')
      exact .bare hw hopen (hclause.trans hc) (hsame.trans hgroups)
  | targeted hu' _ hc hgroups hne =>
      obtain rfl := Option.some.inj (hu.symm.trans hu')
      exact .targeted hw hopen (hclause.trans hc) (hsame.trans hgroups) hne

/-- The criteria among the parts that are added come to the clause in their order. -/
theorem Gathered.parts {parts : List (UnitPart × Value)} (h : Gathered base s criteria)
    (hwf : s.WellFormed) (hparts : s.HoldsEach parts)
    (hrun : (parts.forM (addPart base.units.length)).run s = .ok () s') :
    Gathered base s' (criteria ++ criteriaIn parts) ∧ s'.WellFormed := by
  induction parts generalizing s criteria with
  | nil =>
      cases hrun
      exact ⟨by simpa [criteriaIn] using h, hwf⟩
  | cons part rest ih =>
      obtain ⟨_, t, hadd, hrest⟩ := run_bind_eq_ok hrun
      obtain ⟨hleads, -⟩ :=
        (addPart_wellFormed hwf (hparts part List.mem_cons_self) base.units.length).answered hadd
      have hlater : t.HoldsEach rest := fun p hp =>
        hleads.grows.holds p.2 (hparts p (List.mem_cons_of_mem part hp))
      obtain ⟨role, value⟩ := part
      cases role with
      | criterion =>
          have hall := ih (h.criterion hwf hadd) hleads.wellFormed hlater hrest
          rw [List.append_assoc] at hall
          exact hall
      | command => exact ih (h.command hadd) hleads.wellFormed hlater hrest

/-- The clauses of a unit of given criteria, and of its frozen copy: none if there are no criteria. -/
def unitClauses (criteria : List Value) (frozen : Bool) : List (List Value) :=
  if criteria.isEmpty then [] else criteria :: if frozen then [criteria, criteria] else []

/-- A unit has the criteria among its parts, in their order. -/
theorem buildUnit_founds (hwf : s.WellFormed) {parts : List (UnitPart × Value)}
    (hparts : s.HoldsEach parts) (frozen : Bool) :
    Founds (buildUnit parts frozen) s (unitClauses (criteriaIn parts) frozen) := by
  intro a s' hrun
  rw [buildUnit, run_bind_ok run_startUnit] at hrun
  obtain ⟨_, t, hloop, hlast⟩ := run_bind_eq_ok hrun
  have hstart : Runs (fun _ => True) False [] startUnit s fun _ _ => True :=
    (startUnit_runs hwf).imp fun _ _ _ _ => trivial
  obtain ⟨hleads, -⟩ := hstart.answered run_startUnit
  have hfresh : Gathered s (s.addUnit ⟨none, [], "", false⟩) [] :=
    .bare List.getElem?_concat_length rfl rfl rfl
  obtain ⟨hgathered, hwf'⟩ := hfresh.parts hleads.wellFormed (hleads.grows.holdsEach hparts) hloop
  rw [List.nil_append] at hgathered
  have hfrozen : frozen = true → s'.clauses = t.clauses ++ t.frozenCopies (.unit s.units.length) := by
    rintro rfl
    exact (freezeUnit_founds hwf' s.units.length).bind_pure a s' hlast
  have hopen : frozen = false → s' = t := by
    rintro rfl
    cases hlast
    rfl
  generalize criteriaIn parts = gathered at hgathered
  cases hgathered with
  | bare hu huopen hc hgroups =>
      have hsame : t.clauses = s.clauses := congrArg (List.map CriteriaGroup.criteria) hgroups
      cases frozen with
      | false =>
          rw [hopen rfl, hsame]
          exact (List.append_nil _).symm
      | true =>
          rw [hfrozen rfl, hsame]
          simp [frozenCopies, hu, huopen, clausesOf_none hc, unitClauses]
  | @targeted u g hu huopen hc hgroups hne =>
      have hnew : t.clauses = s.clauses ++ [g.criteria] := by
        simp only [clauses, hgroups, List.map_append, List.map_cons, List.map_nil]
      have hg : t.groups[s.groups.length]? = some g := by
        rw [hgroups]
        exact List.getElem?_concat_length
      have hcriteria : g.criteria.isEmpty = false := by simpa using hne
      cases frozen with
      | false =>
          rw [hopen rfl, hnew]
          simp [unitClauses, hcriteria]
      | true =>
          rw [hfrozen rfl, hnew]
          simp [frozenCopies, hu, huopen, clausesOf_some hc hg, unitClauses, hcriteria]

/-! ### Entries, batches and records -/

/-- A unit that is made of a sub-command has no clause to be copied. -/
theorem unitOf_gathers (hrun : (unitOf v).run s = .ok i s') :
    i = s.units.length ∧ Gathered s s' [] := by
  rw [unitOf, run_bind_ok run_startUnit] at hrun
  obtain ⟨_, t, hadd, hlast⟩ := run_bind_eq_ok hrun
  cases hlast
  have hfresh : Gathered s (s.addUnit ⟨none, [], "", false⟩) [] :=
    .bare List.getElem?_concat_length rfl rfl rfl
  exact ⟨rfl, hfresh.command hadd⟩

theorem entry_founds (hwf : s.WellFormed) (hv : s.Holds v) :
    Founds (entry v) s (s.entryCopies v) := by
  cases v with
  | builder ref =>
      cases ref with
      | unit i => exact (freezeUnit_founds hwf i).bind_pure
      | _ => exact Founds.pure _
  | record form fields =>
      cases form with
      | subCommand form =>
          intro kept s' hrun
          obtain ⟨i, t, hunit, hlast⟩ := run_bind_eq_ok hrun
          have hunitOf : Runs (fun _ => True) False [] (unitOf (.record (.subCommand form) fields)) s
              fun _ _ => True := (unitOf_runs hwf hv).imp fun _ _ _ _ => trivial
          obtain ⟨hleads, -⟩ := hunitOf.answered hunit
          obtain ⟨rfl, hgathered⟩ := unitOf_gathers hunit
          have hfreeze := (freezeUnit_founds hleads.wellFormed s.units.length).bind_pure kept s' hlast
          generalize hnone : ([] : List Value) = criteria at hgathered
          cases hgathered with
          | bare hu _ hc hgroups =>
              rw [hfreeze]
              simp [frozenCopies, hu, clausesOf_none hc, clauses, hgroups, entryCopies]
          | targeted _ _ _ _ hne => exact absurd hnone.symm hne
      | _ => exact Founds.pure _
  | _ => exact Founds.pure _

theorem modifyBatch_founds (i : Nat) (change : Batch → Batch) : Founds (modifyBatch i change) s [] :=
  Founds.of_ok rfl (List.append_nil _).symm

theorem commandText_founds (v : Value) : Founds (commandText v) s [] := by
  have hreads : Reads (commandText v) s fun _ => True :=
    reads_get.bind fun _ _ => reads_ofReading _
  exact hreads.founds

theorem append_founds (hwf : s.WellFormed) (hv : s.Holds v) (i : Nat) :
    Founds (append i v) s (s.entryCopies v) := by
  have hwrite (kept : Value) (t : Store) : Founds (do
      let text ← commandText kept
      modifyBatch i fun b => { b with text := b.text ++ text, commands := b.commands ++ [kept] }) t [] :=
    (commandText_founds kept).quiet_bind fun _ _ _ => modifyBatch_founds i _
  apply (entry_founds hwf hv).bind_quiet
  intro kept t _
  apply reads_batch.founds.quiet_bind
  intro b t' _
  cases b.commands.isEmpty with
  | true => exact hwrite kept t'
  | false => exact (modifyBatch_founds i _).quiet_bind fun _ t'' _ => hwrite kept t''

/-- Commands that are appended to a new batch are kept as they stand, one behind the other. -/
theorem appendAll_founds {base : Store} (hbase : base.WellFormed) (hnew : ¬ base.Has (.batch i))
    (hleads : base.Leads (fun _ => False) s) {commands : List Value}
    (hcommands : base.HoldsAll commands) :
    Founds (commands.forM (append i)) s (commands.flatMap base.entryCopies) := by
  induction commands generalizing s with
  | nil => exact Founds.pure ()
  | cons v rest ih =>
      have hv := hleads.grows.holds v hcommands.1
      have hcopies := hleads.staysIn.entryCopies_eq hbase hcommands.1
      have happend := append_founds hleads.wellFormed hv i
      rw [hcopies] at happend
      apply happend.bind
      intro _ t hrun
      have hruns : Runs (fun ref => ref = .batch i) False _ (append i v) s fun _ _ => True :=
        append_runs hleads.wellFormed hv rfl
      have hpast (ref : Ref) (href : ref = .batch i) : ¬ base.Has ref := by
        rw [href]
        exact hnew
      exact ih (hleads.past hpast (hruns.answered hrun).1) hcommands.2

theorem buildBatch_founds (hwf : s.WellFormed) {commands : List Value}
    (hcommands : s.HoldsAll commands) :
    Founds (buildBatch commands) s (commands.flatMap s.entryCopies) := by
  have hbatch : Founds (batchOf commands) s (commands.flatMap s.entryCopies) := by
    have hstart : Founds startBatch s [] := .of_ok run_startBatch (List.append_nil _).symm
    apply hstart.quiet_bind
    intro i t hrun
    have hruns : Runs (fun _ => False) False [] startBatch s fun j t => j = s.batches.length :=
      (startBatch_runs hwf).imp fun _ _ _ h => h.1
    obtain ⟨hleads, rfl⟩ := hruns.answered hrun
    exact (appendAll_founds hwf (Nat.lt_irrefl _) hleads hcommands).bind_pure
  exact hbatch.bind_pure

theorem keptCriteria_founds (v : Value) : Founds (keptCriteria v) s (s.criteriaCopies v) := by
  cases v with
  | builder ref =>
      cases ref with
      | group i => exact (freezeGroup_founds i).bind_pure
      | _ => exact .of_error (run_refuse _)
  | _ => exact .of_error (run_refuse _)

theorem keptFields_founds (hwf : s.WellFormed) (form : Form) {fields : List Value}
    (hfields : s.HoldsAll fields) :
    Founds (keptFields form fields) s (s.recordCopies form fields) := by
  fun_cases keptFields form fields with
  | case1 criteria workspace | case2 criteria output => exact (keptCriteria_founds criteria).bind_pure
  | case3 criteria => exact (keptCriteria_founds criteria).bind_pure
  | case4 criteria command =>
      apply (keptCriteria_founds criteria).bind
      intro kept t hrun
      have hruns : Runs (fun _ => False) False [] (keptCriteria criteria) s fun _ _ => True :=
        (keptCriteria_runs hwf).imp fun _ _ _ _ => trivial
      obtain ⟨hleads, -⟩ := hruns.answered hrun
      have hentry := entry_founds hleads.wellFormed (hleads.grows.holds command hfields.2.1)
      rw [hleads.staysIn.entryCopies_eq hwf hfields.2.1] at hentry
      exact hentry.bind_pure
  | case5 key command flags | case6 key command flags =>
      exact (entry_founds hwf hfields.2.1).bind_pure
  | case7 switch state command flags => exact (entry_founds hwf hfields.2.2.1).bind_pure
  | case8 form fields h₁ h₂ h₃ h₄ h₅ h₆ h₇ =>
      have hnone : s.recordCopies form fields = [] := by
        unfold recordCopies
        split
        · exact (h₁ _ _ rfl rfl).elim
        · exact (h₂ _ _ rfl rfl).elim
        · exact (h₃ _ rfl rfl).elim
        · exact (h₄ _ _ rfl rfl).elim
        · exact (h₅ _ _ _ rfl rfl).elim
        · exact (h₆ _ _ _ rfl rfl).elim
        · exact (h₇ _ _ _ _ rfl rfl).elim
        · rfl
      rw [hnone]
      exact Founds.pure fields

theorem record_founds (hwf : s.WellFormed) (form : Form) {fields : List Value}
    (hfields : s.HoldsAll fields) :
    Founds (record form fields) s (s.recordCopies form fields) := by
  unfold record
  cases checkRecord form fields with
  | error fault => exact .of_error (run_throw_fault fault)
  | ok _ => exact (keptFields_founds hwf form hfields).bind_pure

end Building

end SwayControl
