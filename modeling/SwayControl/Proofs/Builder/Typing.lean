import SwayControl.Proofs.Builder.Interleaving
import SwayControl.Proofs.Builder.Rule
import SwayControl.Proofs.Grammar.Agreement

/-!
Making well-typed values. A builder is well typed if the criteria and the sub-commands in it are. What is
made of well-typed parts is well typed again and leaves every builder alone that was there before. All
that can go wrong on the way is that a colour component is out of range, that a border style may not be a
default, or that a workspace is given no output.
-/

namespace SwayControl

/-- A well-typed criterion. No field of a criterion takes a builder, so none is looked at. -/
def Value.TypedCriterion (v : Value) : Prop := Kind.criterion.Fits v ∧ v.Typed fun _ => True

/-- A well-typed sub-command. No field of a sub-command takes a builder, so none is looked at. -/
def Value.TypedSubCommand (v : Value) : Prop := Kind.subCommand.Fits v ∧ v.Typed fun _ => True

/-- The faults that the checks of records raise, each with what it complains about. -/
def Fault.Documented : Fault → Prop
  | .colorOutOfRange _ amount => ¬ (0 ≤ amount ∧ amount ≤ 255)
  | .borderNotAllowedAsDefault kind => kind.allowedAsDefault = false
  | .noOutputs => True
  | _ => False

namespace Store

/-- Whether a group is in the store and holds well-typed criteria only. -/
def TypedGroup (s : Store) (i : Nat) : Prop :=
  ∃ g, s.groups[i]? = some g ∧ ∀ c ∈ g.criteria, c.TypedCriterion

/-- Whether a group or a unit is in the store and holds well-typed criteria and sub-commands only. No
field takes a batch. -/
def TypedBuilder (s : Store) : Ref → Prop
  | .group i => s.TypedGroup i
  | .unit i => ∃ u, s.units[i]? = some u ∧ (∀ c ∈ u.commands, c.TypedSubCommand) ∧
      ∀ c, u.clause = some c → s.TypedGroup c
  | .batch _ => False

/-- Whether a value is well typed, with all builders that it names. -/
def WellTyped (s : Store) (v : Value) : Prop := v.Typed s.TypedBuilder

/-- Whether all builders of a store are in another one as they are. -/
def StaysIn (s s' : Store) : Prop := ∀ ref, s.Has ref → s.Same s' ref

variable {s s' s'' : Store} {i : Nat} {v : Value}

theorem StaysIn.refl (s : Store) : s.StaysIn s := fun ref _ => by cases ref <;> rfl

theorem StaysIn.trans (h : s.StaysIn s') (h' : s'.StaysIn s'') : s.StaysIn s'' := by
  intro ref href
  have hlast := h' ref (has_of_same h href)
  have hfirst := h ref href
  cases ref <;> exact Eq.trans hlast hfirst

theorem StaysIn.typedGroup (h : s.StaysIn s') (hgroup : s.TypedGroup i) : s'.TypedGroup i := by
  obtain ⟨g, hg, hcriteria⟩ := hgroup
  have hsame : s'.groups[i]? = s.groups[i]? := h (.group i) (has_group hg)
  exact ⟨g, hsame.trans hg, hcriteria⟩

theorem StaysIn.typedBuilder (h : s.StaysIn s') {ref : Ref} (href : s.TypedBuilder ref) :
    s'.TypedBuilder ref := by
  cases ref with
  | group i => exact h.typedGroup href
  | unit i =>
      obtain ⟨u, hu, hcommands, hclause⟩ := href
      have hsame : s'.units[i]? = s.units[i]? := h (.unit i) (has_unit hu)
      exact ⟨u, hsame.trans hu, hcommands, fun c hc => h.typedGroup (hclause c hc)⟩
  | batch i => exact href

theorem StaysIn.wellTyped (h : s.StaysIn s') (hv : s.WellTyped v) : s'.WellTyped v :=
  Value.Typed.mono (fun _ => h.typedBuilder) v hv

theorem wellTyped_builder {ref : Ref} (h : s.TypedBuilder ref) : s.WellTyped (.builder ref) :=
  Value.typed_builder h

theorem WellTyped.builder {ref : Ref} (h : s.WellTyped (.builder ref)) : s.TypedBuilder ref :=
  Value.Typed.ref h

theorem staysIn_addGroup (s : Store) (g : CriteriaGroup) : s.StaysIn (s.addGroup g) := by
  intro ref href
  cases ref with
  | group i => exact List.getElem?_append_left href
  | unit i => rfl
  | batch i => rfl

theorem staysIn_addUnit (s : Store) (u : TargetedUnit) : s.StaysIn (s.addUnit u) := by
  intro ref href
  cases ref with
  | group i => rfl
  | unit i => exact List.getElem?_append_left href
  | batch i => rfl

end Store

/-- A well-typed value agrees with itself, with each builder as one with itself only. -/
theorem Value.Typed.matched {builder : Ref → Prop} {v : Value} (h : v.Typed builder) (kind : Kind)
    (hfits : kind.Fits v) : Matched builder (fun a b => a == b) kind v v :=
  .self (fun _ => beq_self_eq_true _) hfits h

/-- A criterion that is well typed can be read. -/
theorem Value.TypedCriterion.read {v : Value} (h : v.TypedCriterion) :
    ∃ criterion, v.readCriterion = .ok criterion := by
  obtain ⟨criterion, _, hread, -⟩ := (h.2.matched _ h.1).readCriterion
  exact ⟨criterion, hread⟩

/-- A sub-command that is well typed can be read. -/
theorem Value.TypedSubCommand.read {v : Value} (h : v.TypedSubCommand) :
    ∃ command, v.readSubCommand = .ok command := by
  obtain ⟨form, fields, rfl⟩ := h.1
  obtain ⟨-, hfields⟩ := (h.2.matched _ h.1).fields
  obtain ⟨command, _, hread, -⟩ := Matched.readSubCommandFields hfields
  exact ⟨command, hread⟩

namespace Building

variable {α β : Type} {raises raises' : Fault → Prop} {s s' : Store} {x : Building α}
  {f : α → Building β} {post : α → Store → Prop} {post' : β → Store → Prop} {i : Nat}

/-- What an operation makes: it leaves all builders alone that are there and answers, or it raises one of
the given faults. -/
def Makes (raises : Fault → Prop) (x : Building α) (s : Store) (post : α → Store → Prop) : Prop :=
  match x.run s with
  | .ok a s' => s.StaysIn s' ∧ post a s'
  | .error fault _ => raises fault

theorem Makes.of_ok {a : α} (hrun : x.run s = .ok a s') (hstays : s.StaysIn s') (hpost : post a s') :
    Makes raises x s post := by
  simp only [Makes, hrun]
  exact ⟨hstays, hpost⟩

theorem Makes.pure {a : α} (hpost : post a s) : Makes raises (pure a) s post :=
  Makes.of_ok (EStateM.run_pure a s) (.refl s) hpost

/-- What follows may be judged by what the first operation answered. -/
theorem Makes.bind_run (hx : Makes raises x s post)
    (hf : ∀ a s', x.run s = .ok a s' → s.StaysIn s' → post a s' → Makes raises (f a) s' post') :
    Makes raises (x >>= f) s post' := by
  refine Ends.bind hx ?_ fun _ _ _ hfault => hfault
  rintro a s' hrun ⟨hstays, ha⟩
  refine Ends.imp (hf a s' hrun hstays ha) ?_ fun _ _ hfault => hfault
  rintro b s'' ⟨hstays', hb⟩
  exact ⟨hstays.trans hstays', hb⟩

theorem Makes.bind (hx : Makes raises x s post)
    (hf : ∀ a s', s.StaysIn s' → post a s' → Makes raises (f a) s' post') :
    Makes raises (x >>= f) s post' :=
  hx.bind_run fun a s' _ => hf a s'

theorem Makes.imp {post' : α → Store → Prop} (hx : Makes raises x s post)
    (hpost : ∀ a s', s.StaysIn s' → post a s' → post' a s') : Makes raises x s post' := by
  have hbind := hx.bind (f := Pure.pure) fun a s' hstays ha => Makes.pure (hpost a s' hstays ha)
  rwa [bind_pure] at hbind

/-- An operation that goes on as another, after a part that leaves all builders alone. -/
theorem Makes.after {y : Building α} (hrun : x.run s = y.run s') (hstays : s.StaysIn s')
    (hy : Makes raises y s' post) : Makes raises x s post := by
  refine Ends.imp (Ends.of_run_eq hrun hy) ?_ fun _ _ hfault => hfault
  rintro a s'' ⟨hstays', ha⟩
  exact ⟨hstays.trans hstays', ha⟩

theorem Makes.mono (hx : Makes raises x s post) (h : ∀ fault, raises fault → raises' fault) :
    Makes raises' x s post :=
  Ends.imp hx (fun _ _ ha => ha) fun fault _ => h fault

/-- What is said of the answer may be said in several parts. -/
theorem Makes.all {ι : Type} {post : ι → α → Store → Prop} (j : ι) (hx : ∀ j, Makes raises x s (post j)) :
    Makes raises x s fun a s' => ∀ j, post j a s' := by
  unfold Makes at hx ⊢
  cases hrun : x.run s with
  | error fault s' =>
      simp only [hrun] at hx ⊢
      exact hx j
  | ok a s' =>
      simp only [hrun] at hx ⊢
      exact ⟨(hx j).1, fun j => (hx j).2⟩

theorem Makes.answered {a : α} (hx : Makes raises x s post) (hrun : x.run s = .ok a s') :
    s.StaysIn s' ∧ post a s' := by
  simpa only [Makes, hrun] using hx

/-- An operation that raises nothing answers. -/
theorem Makes.ok (hx : Makes (fun _ => False) x s post) :
    ∃ a s', x.run s = .ok a s' ∧ s.StaysIn s' ∧ post a s' := by
  unfold Makes at hx
  cases hrun : x.run s with
  | error fault s' => simp only [hrun] at hx
  | ok a s' =>
      simp only [hrun] at hx
      exact ⟨a, s', rfl, hx⟩

/-! ### Groups -/

theorem freezeGroup_makes (h : s.TypedGroup i) :
    Makes raises (freezeGroup i) s fun j s' => s'.TypedGroup j := by
  obtain ⟨g, hg, hcriteria⟩ := h
  cases hfrozen : g.frozen with
  | true => exact .of_ok (run_freezeGroup_frozen hg hfrozen) (.refl s) ⟨g, hg, hcriteria⟩
  | false =>
      exact .of_ok (run_freezeGroup_copy hg hfrozen) (s.staysIn_addGroup _)
        ⟨_, List.getElem?_concat_length, hcriteria⟩

/-- Criteria are added one by one to a group that came to a store, while the builders of that store
stay. -/
theorem addAll_run {base : Store} {g : CriteriaGroup} {criteria : List Value}
    (hbase : base.StaysIn s) (hfresh : ¬ base.Has (.group i)) (hg : s.groups[i]? = some g)
    (hopen : g.frozen = false) (hcriteria : ∀ c ∈ criteria, c.TypedCriterion) :
    ∃ s' g', (criteria.forM (addToGroup i)).run s = .ok () s' ∧ base.StaysIn s' ∧
      s'.groups[i]? = some g' ∧ g'.criteria = g.criteria ++ criteria := by
  induction criteria generalizing s g with
  | nil => exact ⟨s, g, rfl, hbase, hg, (List.append_nil _).symm⟩
  | cons value rest ih =>
      obtain ⟨hvalue, hrest⟩ := List.forall_mem_cons.mp hcriteria
      obtain ⟨criterion, hread⟩ := hvalue.read
      have hlt : i < s.groups.length := Store.has_group hg
      have hstays : base.StaysIn (s.setGroup i
          ⟨g.criteria ++ [value], extendClause g.text criterion.render, false⟩) := by
        intro ref href
        have hsame := hbase ref href
        cases ref with
        | group j =>
            have hij : i ≠ j := by
              rintro rfl
              exact hfresh href
            exact (List.getElem?_set_ne hij).trans hsame
        | unit j => exact hsame
        | batch j => exact hsame
      obtain ⟨s', g', hrun, hbase', hg', hall⟩ :=
        ih hstays (List.getElem?_set_self hlt) rfl hrest
      refine ⟨s', g', (run_bind_ok (run_addToGroup_ok hg hopen hread)).trans hrun, hbase', hg', ?_⟩
      rw [hall, List.append_assoc]
      rfl

theorem buildGroup_makes {criteria : List Value} (hne : criteria ≠ [])
    (hcriteria : ∀ c ∈ criteria, c.TypedCriterion) (frozen : Bool) :
    Makes raises (buildGroup criteria frozen) s fun v s' =>
      Kind.group.Fits v ∧ s'.WellTyped v := by
  cases criteria with
  | nil => exact absurd rfl hne
  | cons first rest =>
      obtain ⟨hfirst, hrest⟩ := List.forall_mem_cons.mp hcriteria
      obtain ⟨criterion, hread⟩ := hfirst.read
      obtain ⟨s', g', hrun, hstays, hg', hall⟩ := addAll_run
        (i := s.groups.length) (s.staysIn_addGroup ⟨[first], bracketed [criterion.render], false⟩)
        (Nat.lt_irrefl _) List.getElem?_concat_length rfl hrest
      have hgroup : (groupOf first rest).run s = .ok s.groups.length s' := by
        simp only [groupOf]
        rw [run_bind_ok (run_startGroup_ok hread), run_bind_ok hrun]
        rfl
      have htyped : s'.TypedGroup s.groups.length := ⟨g', hg', by rw [hall]; exact hcriteria⟩
      refine Makes.after (run_bind_ok hgroup) hstays ?_
      cases frozen with
      | false => exact .pure ⟨⟨_, rfl⟩, Store.wellTyped_builder htyped⟩
      | true =>
          refine (freezeGroup_makes htyped).bind fun k t _ hk => ?_
          exact .pure ⟨⟨k, rfl⟩, Store.wellTyped_builder hk⟩

/-! ### Units and entries -/

theorem freezeUnit_makes (h : s.TypedBuilder (.unit i)) :
    Makes raises (freezeUnit i) s fun j s' => s'.TypedBuilder (.unit j) := by
  have htyped := h
  obtain ⟨u, hu, hcommands, hclause⟩ := h
  cases hfrozen : u.frozen with
  | true => exact .of_ok (run_freezeUnit_frozen hu hfrozen) (.refl s) htyped
  | false =>
      cases hc : u.clause with
      | none =>
          refine .of_ok (run_freezeUnit_bare hu hfrozen hc) (s.staysIn_addUnit _) ?_
          exact ⟨_, List.getElem?_concat_length, hcommands, fun c hc' => by cases hc'⟩
      | some c =>
          obtain ⟨g, hg, hcriteria⟩ := hclause c hc
          have hlast : ((s.addGroup ⟨g.criteria, g.text, false⟩).addGroup
              ⟨g.criteria, g.text, true⟩).groups[s.groups.length + 1]? =
                some ⟨g.criteria, g.text, true⟩ := by
            have hlength : (s.addGroup ⟨g.criteria, g.text, false⟩).groups.length =
                s.groups.length + 1 := List.length_append
            rw [← hlength]
            exact List.getElem?_concat_length
          refine .of_ok (run_freezeUnit_clause hu hfrozen hc hg)
            (((s.staysIn_addGroup _).trans (Store.staysIn_addGroup _ _)).trans
              (Store.staysIn_addUnit _ _)) ⟨_, List.getElem?_concat_length, hcommands, ?_⟩
          rintro d ⟨⟩
          exact ⟨_, hlast, hcriteria⟩

/-- An assembled unit of well-typed criteria and sub-commands is well typed. -/
theorem typed_of_assembled {criteria commands : List Value} {u : TargetedUnit}
    (h : s.Assembled i criteria commands u) (hcriteria : ∀ c ∈ criteria, c.TypedCriterion)
    (hcommands : ∀ c ∈ commands, c.TypedSubCommand) : s.TypedBuilder (.unit i) := by
  refine ⟨u, h.unit, h.commands ▸ hcommands, fun c hc => ?_⟩
  have hclause := h.clause
  rw [hc] at hclause
  obtain ⟨-, g, hg, -, rfl, -⟩ := hclause
  exact ⟨g, hg, hcriteria⟩

/-- A well-typed part of a unit. -/
def TypedPart (part : UnitPart × Value) : Prop :=
  match part.1 with
  | .criterion => part.2.TypedCriterion
  | .command => part.2.TypedSubCommand

/-- Parts are added one by one to a unit that came to a store, while the builders of that store stay. -/
theorem addParts_run {base : Store} {criteria commands : List Value} {u : TargetedUnit}
    {parts : List (UnitPart × Value)} (h : s.Assembled i criteria commands u)
    (hbeside : base.Beside s i u) (hcriteria : ∀ c ∈ criteria, c.TypedCriterion)
    (hcommands : ∀ c ∈ commands, c.TypedSubCommand) (hparts : ∀ part ∈ parts, TypedPart part) :
    ∃ s', (parts.forM (addPart i)).run s = .ok () s' ∧ base.StaysIn s' ∧
      s'.TypedBuilder (.unit i) := by
  induction parts generalizing s criteria commands u with
  | nil => exact ⟨s, rfl, hbeside.same, typed_of_assembled h hcriteria hcommands⟩
  | cons part rest ih =>
      obtain ⟨hpart, hrest⟩ := List.forall_mem_cons.mp hparts
      obtain ⟨role, value⟩ := part
      cases role with
      | criterion =>
          obtain ⟨criterion, hread⟩ := Value.TypedCriterion.read hpart
          obtain ⟨s₁, u₁, hrun, h₁, hbeside₁, -⟩ := addCriterion_assembles h hbeside hread
          obtain ⟨s', hrun', hstays, htyped⟩ := ih h₁ hbeside₁
            (fun c hc => (List.mem_append.mp hc).elim (hcriteria c) fun hlast =>
              List.mem_singleton.mp hlast ▸ hpart) hcommands hrest
          exact ⟨s', (run_bind_ok hrun).trans hrun', hstays, htyped⟩
      | command =>
          obtain ⟨command, hread⟩ := Value.TypedSubCommand.read hpart
          obtain ⟨s₁, u₁, hrun, h₁, hbeside₁, -⟩ := addCommand_assembles h hbeside hread
          obtain ⟨s', hrun', hstays, htyped⟩ := ih h₁ hbeside₁ hcriteria
            (fun c hc => (List.mem_append.mp hc).elim (hcommands c) fun hlast =>
              List.mem_singleton.mp hlast ▸ hpart) hrest
          exact ⟨s', (run_bind_ok hrun).trans hrun', hstays, htyped⟩

theorem buildUnit_makes {parts : List (UnitPart × Value)} (hparts : ∀ part ∈ parts, TypedPart part)
    (frozen : Bool) :
    Makes raises (buildUnit parts frozen) s fun v s' => Kind.unit.Fits v ∧ s'.WellTyped v := by
  obtain ⟨s', hrun, hstays, htyped⟩ := addParts_run s.assembled_fresh s.beside_fresh
    (fun _ hc => absurd hc List.not_mem_nil) (fun _ hc => absurd hc List.not_mem_nil) hparts
  refine Makes.after ((run_bind_ok run_startUnit).trans (run_bind_ok hrun)) hstays ?_
  cases frozen with
  | false => exact .pure ⟨⟨_, rfl⟩, Store.wellTyped_builder htyped⟩
  | true =>
      refine (freezeUnit_makes htyped).bind fun k t _ hk => ?_
      exact .pure ⟨⟨k, rfl⟩, Store.wellTyped_builder hk⟩

theorem unitOf_makes {command : Value} (hcommand : command.TypedSubCommand) :
    Makes raises (unitOf command) s fun j s' => s'.TypedBuilder (.unit j) := by
  obtain ⟨read, hread⟩ := hcommand.read
  obtain ⟨s', u', hrun, h', hbeside, -⟩ := addCommand_assembles s.assembled_fresh s.beside_fresh hread
  refine Makes.after ((run_bind_ok run_startUnit).trans (run_bind_ok hrun)) hbeside.same ?_
  exact .pure (typed_of_assembled h' (fun _ hc => absurd hc List.not_mem_nil)
    (List.forall_mem_singleton.mpr hcommand))

theorem typed_raw {builder : Ref → Prop} {line : Value} (hline : line.IsText) :
    (Value.raw line).Typed builder :=
  Value.typed_record (.cons hline .nil) rfl fun _ hv => List.mem_singleton.mp hv ▸ hline.typed

/-- What is kept of a well-typed command is a well-typed entry. -/
theorem entry_makes {command : Value} (hfits : Kind.command.Fits command)
    (htyped : s.WellTyped command) :
    Makes raises (entry command) s fun kept s' => kept.IsEntry ∧ s'.WellTyped kept := by
  obtain (⟨i, rfl⟩ | ⟨fields, rfl⟩ | ⟨form, fields, rfl⟩ | ⟨form, fields, rfl⟩) |
    (⟨t, rfl⟩ | ⟨w, rfl⟩) | ⟨form, fields, rfl⟩ := hfits
  case inl.inl =>
    refine (freezeUnit_makes htyped.builder).bind fun j s' _ hj => ?_
    exact .pure ⟨Or.inl ⟨j, rfl⟩, Store.wellTyped_builder hj⟩
  case inl.inr.inl => exact .pure ⟨Or.inr (Or.inl ⟨fields, rfl⟩), htyped⟩
  case inl.inr.inr.inl => exact .pure ⟨Or.inr (Or.inr (Or.inl ⟨form, fields, rfl⟩)), htyped⟩
  case inl.inr.inr.inr => exact .pure ⟨Or.inr (Or.inr (Or.inr ⟨form, fields, rfl⟩)), htyped⟩
  case inr.inl.inl => exact .pure ⟨Or.inr (Or.inl ⟨[.text t], rfl⟩), typed_raw (Or.inl ⟨t, rfl⟩)⟩
  case inr.inl.inr => exact .pure ⟨Or.inr (Or.inl ⟨[.keyword w], rfl⟩), typed_raw (Or.inr ⟨w, rfl⟩)⟩
  case inr.inr =>
    have hcommand : (Value.record (.subCommand form) fields).TypedSubCommand :=
      ⟨⟨form, fields, rfl⟩, Value.Typed.mono (fun _ _ => trivial) _ htyped⟩
    refine (unitOf_makes hcommand).bind fun j s' _ hj => ?_
    refine (freezeUnit_makes hj).bind fun k s'' _ hk => ?_
    exact .pure ⟨Or.inl ⟨k, rfl⟩, Store.wellTyped_builder hk⟩

end Building

/-! ### Records -/

section

variable {builder : Ref → Prop} {form : Form} {fields : List Value} {fault : Fault}

theorem checkComponent_documented {channel : ColorChannel} {v : Value}
    (h : checkComponent channel v = .error fault) : fault.Documented := by
  cases v with
  | int n =>
      simp only [checkComponent, Bool.and_eq_true, decide_eq_true_eq] at h
      split at h
      · cases h
      · cases h
        assumption
  | _ => cases h

theorem checkColor_documented {red green blue alpha : Value}
    (h : checkColor red green blue alpha = .error fault) : fault.Documented := by
  have hbind {x y : Except Fault Unit} (hx : ∀ f, x = .error f → f.Documented)
      (hy : ∀ f, y = .error f → f.Documented) :
      ∀ f, (x >>= fun _ => y) = .error f → f.Documented := by
    rintro f hf
    cases x with
    | error g => exact hx f hf
    | ok _ => exact hy f hf
  exact hbind (fun _ => checkComponent_documented) (hbind (fun _ => checkComponent_documented)
    (hbind (fun _ => checkComponent_documented) fun _ => checkComponent_documented)) fault h

/-- A well-typed border style is read, so its kind alone may be refused. -/
theorem checkDefaultBorder_documented {style : Value}
    (hfits : (Kind.record [.window .borderStyle]).Fits style) (htyped : style.Typed builder)
    (h : checkDefaultBorder style = .error fault) : fault.Documented := by
  obtain ⟨read, _, hread, -⟩ := (htyped.matched _ hfits).readBorderStyle
  simp only [checkDefaultBorder, hread] at h
  split at h
  · cases h
  · cases h
    exact Bool.eq_false_iff.mpr ‹_›

theorem checkOutputs_documented {outputs : Value} (h : checkOutputs outputs = .error fault) :
    fault.Documented := by
  cases outputs with
  | tuple items =>
      cases items with
      | nil =>
          cases h
          trivial
      | cons _ _ => cases h
  | _ => cases h

/-- The checks of records complain about nothing else than they say. -/
theorem checkRecord_documented (hfits : List.Forall₂ Kind.Fits form.kinds fields)
    (htyped : ∀ v ∈ fields, v.Typed builder) (h : checkRecord form fields = .error fault) :
    fault.Documented := by
  cases form with
  | argument f =>
      cases f with
      | color =>
          obtain _ | ⟨-, _ | ⟨-, _ | ⟨-, _ | ⟨-, _ | _⟩⟩⟩⟩ := hfits
          exact checkColor_documented h
      | _ => cases h
  | topLevel f =>
      cases f with
      | defaultBorder | defaultFloatingBorder =>
          obtain _ | ⟨hstyle, _ | _⟩ := hfits
          exact checkDefaultBorder_documented hstyle (htyped _ List.mem_cons_self) h
      | workspaceOutputs =>
          obtain _ | ⟨-, _ | ⟨-, _ | _⟩⟩ := hfits
          exact checkOutputs_documented h
      | _ => cases h
  | _ => cases h

end

/-- Only bindings and rules that run a command keep something of another kind than they are given. -/
theorem Form.keptKinds_eq {form : Form} (h : ∀ f, form = .topLevel f → f.embeds = false) :
    form.keptKinds = form.kinds := by
  cases form with
  | topLevel f => cases f <;> first | rfl | cases h _ rfl
  | argument f | font f | window f | subCommand f | binding f | configLine f => cases f <;> rfl
  | criterion f =>
      cases f with
      | property key => cases key <;> rfl
      | _ => rfl
  | raw => rfl

namespace Building

variable {raises : Fault → Prop} {s : Store} {form : Form} {fields : List Value}

/-- Well-typed fields that a record keeps. -/
structure TypedFields (s : Store) (form : Form) (kept : List Value) : Prop where
  fits : List.Forall₂ Kind.Fits form.keptKinds kept
  checked : checkRecord form kept = .ok ()
  typed : ∀ v ∈ kept, s.WellTyped v

theorem keptCriteria_makes {clause : Value} (hfits : Kind.group.Fits clause)
    (htyped : s.WellTyped clause) :
    Makes raises (keptCriteria clause) s fun kept s' => Kind.group.Fits kept ∧ s'.WellTyped kept := by
  obtain ⟨i, rfl⟩ := hfits
  refine (freezeGroup_makes htyped.builder).bind fun j s' _ hj => ?_
  exact .pure ⟨⟨j, rfl⟩, Store.wellTyped_builder hj⟩

/-- A record keeps well-typed fields of those that it is given. -/
theorem keptFields_makes (hfits : List.Forall₂ Kind.Fits form.kinds fields)
    (htyped : ∀ v ∈ fields, s.WellTyped v) (hchecked : checkRecord form fields = .ok ()) :
    Makes raises (keptFields form fields) s fun kept s' => TypedFields s' form kept := by
  by_cases hplain : ∀ f, form = .topLevel f → f.targets = false ∧ f.embeds = false
  · rw [keptFields_plain hplain]
    exact .pure ⟨by rwa [Form.keptKinds_eq fun f hf => (hplain f hf).2], hchecked, htyped⟩
  obtain ⟨f, hf⟩ := Classical.not_forall.mp hplain
  obtain ⟨rfl, hspecial⟩ := Classical.not_imp.mp hf
  cases f with
  | assignToWorkspace | assignToOutput =>
      obtain _ | ⟨hclause, _ | ⟨htarget, _ | _⟩⟩ := hfits
      obtain ⟨hclause', htarget', -⟩ := by simpa only [List.forall_mem_cons] using htyped
      refine (keptCriteria_makes hclause hclause').bind fun kept s' hstays hkept => .pure ?_
      exact ⟨.cons hkept.1 (.cons htarget .nil), rfl, by
        simpa only [List.forall_mem_cons, List.not_mem_nil, false_implies, implies_true, and_true]
          using ⟨hkept.2, hstays.wellTyped htarget'⟩⟩
  | noFocus =>
      obtain _ | ⟨hclause, _ | _⟩ := hfits
      refine (keptCriteria_makes hclause (htyped _ List.mem_cons_self)).bind
        fun kept s' _ hkept => .pure ?_
      exact ⟨.cons hkept.1 .nil, rfl, List.forall_mem_singleton.mpr hkept.2⟩
  | forWindow =>
      obtain _ | ⟨hclause, _ | ⟨hcommand, _ | _⟩⟩ := hfits
      obtain ⟨hclause', hcommand', -⟩ := by simpa only [List.forall_mem_cons] using htyped
      refine (keptCriteria_makes hclause hclause').bind fun clause s' hstays hkept => ?_
      refine (entry_makes hcommand (hstays.wellTyped hcommand')).bind fun kept s'' hstays' hentry =>
        .pure ?_
      exact ⟨.cons hkept.1 (.cons hentry.1 .nil), rfl, by
        simpa only [List.forall_mem_cons, List.not_mem_nil, false_implies, implies_true, and_true]
          using ⟨hstays'.wellTyped hkept.2, hentry.2⟩⟩
  | bindsym | bindcode =>
      obtain _ | ⟨hkey, _ | ⟨hcommand, _ | ⟨hflags, _ | _⟩⟩⟩ := hfits
      obtain ⟨hkey', hcommand', hflags', -⟩ := by simpa only [List.forall_mem_cons] using htyped
      refine (entry_makes hcommand hcommand').bind fun kept s' hstays hentry => .pure ?_
      exact ⟨.cons hkey (.cons hentry.1 (.cons hflags .nil)), rfl, by
        simpa only [List.forall_mem_cons, List.not_mem_nil, false_implies, implies_true, and_true]
          using ⟨hstays.wellTyped hkey', hentry.2, hstays.wellTyped hflags'⟩⟩
  | bindswitch =>
      obtain _ | ⟨hswitch, _ | ⟨hstate, _ | ⟨hcommand, _ | ⟨hflags, _ | _⟩⟩⟩⟩ := hfits
      obtain ⟨hswitch', hstate', hcommand', hflags', -⟩ := by
        simpa only [List.forall_mem_cons] using htyped
      refine (entry_makes hcommand hcommand').bind fun kept s' hstays hentry => .pure ?_
      exact ⟨.cons hswitch (.cons hstate (.cons hentry.1 (.cons hflags .nil))), rfl, by
        simpa only [List.forall_mem_cons, List.not_mem_nil, false_implies, implies_true, and_true]
          using ⟨hstays.wellTyped hswitch', hstays.wellTyped hstate', hentry.2,
            hstays.wellTyped hflags'⟩⟩
  | _ => exact absurd ⟨rfl, rfl⟩ hspecial

/-- A record of well-typed fields is well typed, unless they do not pass its check. -/
theorem record_makes (hfits : List.Forall₂ Kind.Fits form.kinds fields)
    (htyped : ∀ v ∈ fields, s.WellTyped v)
    (hraises : ∀ fault, checkRecord form fields = .error fault → fault.Documented → raises fault) :
    Makes raises (record form fields) s fun v s' =>
      (∃ kept, v = .record form kept) ∧ s'.WellTyped v := by
  unfold record
  cases hchecked : checkRecord form fields with
  | error fault => exact hraises fault hchecked (checkRecord_documented hfits htyped hchecked)
  | ok _ =>
      refine (keptFields_makes hfits htyped hchecked).bind fun kept s' _ hkept => .pure ⟨⟨kept, rfl⟩, ?_⟩
      exact Value.typed_record hkept.fits hkept.checked hkept.typed

end Building

end SwayControl
