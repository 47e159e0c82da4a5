import SwayControl.Proofs.Builder.Mention
import SwayControl.Proofs.Builder.Script
import SwayControl.Proofs.Builder.Totality

/-!
Deep immutability. Everything that can be reached from a value is found by following the builders that it
names to what they hold. A kept command is well typed and reaches frozen builders only, so whatever a
script does later, its text, what it is the same as and whether it has lasting content stay as they are.
-/

namespace SwayControl

namespace Store

/-- The builders that a builder holds. -/
def holdings (s : Store) : Ref → List Ref
  | .group i => (s.groups[i]?).elim [] fun g => Value.mentionsIn g.criteria
  | .unit i => (s.units[i]?).elim [] fun u =>
      (u.clause.map Ref.group).toList ++ Value.mentionsIn u.commands
  | .batch i => (s.batches[i]?).elim [] fun b => Value.mentionsIn b.commands

/-- The builders that can be reached from a value: those that it names, and what they hold. -/
inductive Reaches (s : Store) (v : Value) : Ref → Prop
  | mention {ref} (h : ref ∈ v.mentions) : Reaches s v ref
  | hold {ref held} (h : Reaches s v ref) (hheld : held ∈ s.holdings ref) : Reaches s v held

/-- Whether no builder that can be reached from a value can be changed. -/
def Immutable (s : Store) (v : Value) : Prop := ∀ ref, s.Reaches v ref → s.Frozen ref

variable {s s' : Store} {v w : Value} {ref : Ref} {i j : Nat}

theorem Same.holdings_eq (h : s.Same s' ref) : s'.holdings ref = s.holdings ref := by
  cases ref <;> simp only [Same] at h <;> simp only [holdings, h]

/-- Nothing more can be reached from an immutable value later on. -/
theorem Immutable.reaches (h : s.Immutable v) (hgrows : s.Grows s') (href : s'.Reaches v ref) :
    s.Reaches v ref := by
  induction href with
  | mention hmention => exact .mention hmention
  | hold _ hheld ih =>
      rw [(hgrows.same_of_frozen (h _ ih)).holdings_eq] at hheld
      exact .hold ih hheld

theorem Immutable.grows (h : s.Immutable v) (hgrows : s.Grows s') : s'.Immutable v :=
  fun ref href => hgrows.frozen (h ref (h.reaches hgrows href))

/-- A value is immutable if an immutable one reaches all builders that it names. -/
theorem Immutable.of_reaches (h : s.Immutable v) (hw : ∀ ref ∈ w.mentions, s.Reaches v ref) :
    s.Immutable w := by
  have hreaches : ∀ ref, s.Reaches w ref → s.Reaches v ref := by
    intro ref href
    induction href with
    | mention hmention => exact hw _ hmention
    | hold _ hheld ih => exact .hold ih hheld
  exact fun ref href => h ref (hreaches ref href)

theorem reaches_self (s : Store) (ref : Ref) : s.Reaches (.builder ref) ref :=
  .mention (by simp only [Value.mentions, List.mem_singleton])

theorem immutable_of_mentions_eq_nil (h : v.mentions = []) : s.Immutable v := by
  have hnone : ∀ ref, ¬ s.Reaches v ref := by
    intro ref href
    induction href with
    | mention hmention => simp [h] at hmention
    | hold _ _ ih => exact ih
  exact fun ref href => absurd href (hnone ref)

/-- What a builder holds is immutable with it. -/
theorem Immutable.held (h : s.Immutable (.builder ref)) (hw : ∀ held ∈ w.mentions, held ∈ s.holdings ref) :
    s.Immutable w :=
  h.of_reaches fun held hheld => .hold (s.reaches_self ref) (hw held hheld)

/-- What is found in an immutable value is immutable. -/
theorem inherits_immutable (s : Store) : s.Inherits s.Immutable where
  absent := immutable_of_mentions_eq_nil rfl
  flag _ := immutable_of_mentions_eq_nil rfl
  text _ := immutable_of_mentions_eq_nil rfl
  field h v hv := h.of_reaches fun ref href => .mention (by
    simpa only [Value.mentions] using Value.mem_mentionsIn.mpr ⟨v, hv, href⟩)
  item h v hv := h.of_reaches fun ref href => .mention (by
    simpa only [Value.mentions] using Value.mem_mentionsIn.mpr ⟨v, hv, href⟩)
  criteria h hg := h.held (by simp [Value.mentions, holdings, hg])
  clause h hu hc := h.held (by simp [Value.mentions, holdings, hu, hc])
  commands h hu := h.held fun held hheld => by simp_all [Value.mentions, holdings]
  entries h hb := h.held (by simp [Value.mentions, holdings, hb])

/-! ### Lasting values -/

/-- A well-typed group or unit that is frozen. -/
def LastingBuilder (s : Store) (ref : Ref) : Prop := s.TypedBuilder ref ∧ s.Frozen ref

/-- A well-typed value that names frozen builders only. -/
def Lasting (s : Store) (v : Value) : Prop := v.Typed s.LastingBuilder

/-- A well-typed command that is kept is lasting if it cites frozen builders only. -/
theorem WellTyped.lasting (h : s.WellTyped v) (hentry : v.IsEntry)
    (hcited : ∀ ref ∈ v.cited, s.Frozen ref) : s.Lasting v :=
  Value.Typed.and_cited v hentry h hcited

/-- The clause of a lasting unit is lasting: it is frozen with the unit. -/
theorem LastingBuilder.clause (hwf : s.WellFormed) (h : s.LastingBuilder (.unit i)) {u : TargetedUnit}
    {c : Nat} (hu : s.units[i]? = some u) (hc : u.clause = some c) : s.LastingBuilder (.group c) := by
  obtain ⟨⟨u', hu', -, hclause⟩, u'', hu'', hfrozen⟩ := h
  obtain rfl := Option.some.inj (hu.symm.trans hu')
  obtain rfl := Option.some.inj (hu.symm.trans hu'')
  obtain ⟨g, hg, hflag⟩ := (hwf.units i u hu).clause c hc
  exact ⟨hclause c hc, g, hg, hflag.trans hfrozen⟩

/-- What a lasting builder holds is a lasting clause, if anything. -/
theorem LastingBuilder.held (hwf : s.WellFormed) (h : s.LastingBuilder ref) :
    ∀ held ∈ s.holdings ref, s.LastingBuilder held := by
  cases ref with
  | group i =>
      obtain ⟨⟨g, hg, hcriteria⟩, -⟩ := h
      simp [holdings, hg, Value.mentionsIn_criteria hcriteria]
  | unit i =>
      obtain ⟨u, hu, hcommands, -⟩ := h.1
      simp only [holdings, hu, Option.elim_some, Value.mentionsIn_subCommands hcommands, List.append_nil]
      rintro held hheld
      obtain ⟨c, hc, rfl⟩ : ∃ c, u.clause = some c ∧ Ref.group c = held := by simpa using hheld
      exact h.clause hwf hu hc
  | batch i => exact h.1.elim

theorem Lasting.immutable (hwf : s.WellFormed) (h : s.Lasting v) : s.Immutable v := by
  have hreached : ∀ ref, s.Reaches v ref → s.LastingBuilder ref := by
    intro ref href
    induction href with
    | mention hmention => exact Value.Typed.mentioned v h _ hmention
    | hold _ hheld ih => exact ih.held hwf _ hheld
  exact fun ref href => (hreached ref href).2

theorem LastingBuilder.grows (hwf : s.WellFormed) (hgrows : s.Grows s') (h : s.LastingBuilder ref) :
    s'.LastingBuilder ref := by
  have hgroup {i : Nat} (h : s.LastingBuilder (.group i)) : s'.TypedGroup i := by
    obtain ⟨⟨g, hg, hcriteria⟩, hfrozen⟩ := h
    have hsame : s'.groups[i]? = s.groups[i]? := hgrows.same_of_frozen hfrozen
    exact ⟨g, hsame.trans hg, hcriteria⟩
  refine ⟨?_, hgrows.frozen h.2⟩
  cases ref with
  | group i => exact hgroup h
  | unit i =>
      obtain ⟨u, hu, hcommands, -⟩ := h.1
      have hsame : s'.units[i]? = s.units[i]? := hgrows.same_of_frozen h.2
      exact ⟨u, hsame.trans hu, hcommands, fun c hc => hgroup (h.clause hwf hu hc)⟩
  | batch i => exact h.1.elim

theorem Lasting.grows (hwf : s.WellFormed) (hgrows : s.Grows s') (h : s.Lasting v) : s'.Lasting v :=
  Value.Typed.mono (fun _ => LastingBuilder.grows hwf hgrows) v h

/-! ### Lasting content -/

theorem LastingBuilder.unsettledBuilder?_eq_none (hwf : s.WellFormed) (h : s.LastingBuilder ref)
    (depth : Nat) : s.unsettledBuilder? depth ref = none := by
  have hgroup {i : Nat} (h : s.LastingBuilder (.group i)) (depth : Nat) :
      s.unsettledBuilder? depth (.group i) = none := by
    obtain ⟨⟨g, hg, hcriteria⟩, g', hg', hfrozen⟩ := h
    obtain rfl := Option.some.inj (hg.symm.trans hg')
    cases depth with
    | zero => rfl
    | succ depth =>
        simp only [unsettledBuilder?, hg, hfrozen, if_true]
        exact Value.unsettledIn?_eq_none _ (by simp [Value.mentionsIn_criteria hcriteria])
  cases ref with
  | group i => exact hgroup h depth
  | unit i =>
      obtain ⟨u, hu, hcommands, -⟩ := h.1
      obtain ⟨u', hu', hfrozen⟩ := h.2
      obtain rfl := Option.some.inj (hu.symm.trans hu')
      cases depth with
      | zero => rfl
      | succ depth =>
          have hheld : Value.unsettledIn? (s.unsettledBuilder? depth) u.commands = none :=
            Value.unsettledIn?_eq_none _ (by simp [Value.mentionsIn_subCommands hcommands])
          simp only [unsettledBuilder?, hu, hfrozen, if_true, hheld, Option.or_none]
          cases hc : u.clause with
          | none => rfl
          | some c => exact hgroup (h.clause hwf hu hc) depth
  | batch i => exact h.1.elim

theorem Lasting.unsettled?_eq_none (hwf : s.WellFormed) (h : s.Lasting v) : s.unsettled? v = none :=
  Value.unsettled?_eq_none v fun ref href =>
    (Value.Typed.mentioned v h ref href).unsettledBuilder?_eq_none hwf s.depth

/-! ### Lasting sameness -/

/-- Whether two groups are the same is settled at the first look into them if one of them is well typed,
as no criterion names a builder. -/
theorem sameBuilders_group_congr {d d' : Nat} (htyped : s.TypedGroup i ∨ s.TypedGroup j)
    (hi : s.Same s' (.group i)) (hj : s.Same s' (.group j)) :
    s'.sameBuilders (d' + 1) (.group i) (.group j) = s.sameBuilders (d + 1) (.group i) (.group j) := by
  simp only [Same] at hi hj
  simp only [sameBuilders, hi, hj]
  cases hg : s.groups[i]? with
  | none => rfl
  | some g =>
      cases hk : s.groups[j]? with
      | none => rfl
      | some k =>
          have hnone : Value.mentionsIn g.criteria = [] ∨ Value.mentionsIn k.criteria = [] := by
            refine htyped.imp ?_ ?_ <;> rintro ⟨_, hfound, hcriteria⟩
            · exact Option.some.inj (hfound.symm.trans hg) ▸ Value.mentionsIn_criteria hcriteria
            · exact Option.some.inj (hfound.symm.trans hk) ▸ Value.mentionsIn_criteria hcriteria
          exact congrArg (_ || ·) (Value.sameAll_congr_of_nil hnone)

/-- Whether two units are the same is settled at the second look, as their clauses are the only builders
that they hold if one of them is well typed. -/
theorem sameBuilders_unit_congr {d d' : Nat} (hwf : s.WellFormed) (hgrows : s.Grows s')
    (htyped : s.TypedBuilder (.unit i) ∨ s.TypedBuilder (.unit j)) (hi : s.Frozen (.unit i))
    (hj : s.Frozen (.unit j)) :
    s'.sameBuilders (d' + 2) (.unit i) (.unit j) = s.sameBuilders (d + 2) (.unit i) (.unit j) := by
  have hclause {k c : Nat} {u : TargetedUnit} (hk : s.Frozen (.unit k)) (hu : s.units[k]? = some u)
      (hc : u.clause = some c) : s.Same s' (.group c) := by
    obtain ⟨u', hu', hfrozen⟩ := hk
    obtain rfl := Option.some.inj (hu.symm.trans hu')
    obtain ⟨g, hg, hflag⟩ := (hwf.units k u hu).clause c hc
    exact hgrows.same_of_frozen ⟨g, hg, hflag.trans hfrozen⟩
  have hsame : s'.units[i]? = s.units[i]? := hgrows.same_of_frozen hi
  have hsame' : s'.units[j]? = s.units[j]? := hgrows.same_of_frozen hj
  obtain ⟨u, hu, -⟩ := id hi
  obtain ⟨v, hv, -⟩ := id hj
  have hnone : Value.mentionsIn u.commands = [] ∨ Value.mentionsIn v.commands = [] := by
    refine htyped.imp ?_ ?_ <;> rintro ⟨_, hfound, hcommands, -⟩
    · exact Option.some.inj (hfound.symm.trans hu) ▸ Value.mentionsIn_subCommands hcommands
    · exact Option.some.inj (hfound.symm.trans hv) ▸ Value.mentionsIn_subCommands hcommands
  have hcommands : Value.sameAll (s'.sameBuilders (d' + 1)) u.commands v.commands =
      Value.sameAll (s.sameBuilders (d + 1)) u.commands v.commands := Value.sameAll_congr_of_nil hnone
  rw [sameBuilders, sameBuilders]
  simp only [hsame, hsame', hu, hv, TargetedUnit.same, hcommands]
  cases hc : u.clause with
  | none => cases v.clause <;> rfl
  | some c =>
      cases hc' : v.clause with
      | none => rfl
      | some c' =>
          have hclauses : s.TypedGroup c ∨ s.TypedGroup c' := by
            refine htyped.imp ?_ ?_ <;> rintro ⟨_, hfound, -, hclause⟩
            · exact hclause c (Option.some.inj (hfound.symm.trans hu) ▸ hc)
            · exact hclause c' (Option.some.inj (hfound.symm.trans hv) ▸ hc')
          have hgroups : s'.sameBuilders (d' + 1) (.group c) (.group c') =
              s.sameBuilders (d + 1) (.group c) (.group c') :=
            sameBuilders_group_congr hclauses (hclause hi hu hc) (hclause hj hv hc')
          simp only [hgroups]

/-- Two different builders allow for two looks. -/
theorem exists_depth_eq {a b : Ref} (ha : s.Has a) (hb : s.Has b) (hne : a ≠ b) :
    ∃ d, s.depth = d + 2 := by
  have hdepth : 2 ≤ s.depth := by
    cases a <;> cases b <;> simp only [Has, depth, ne_eq, Ref.group.injEq, Ref.unit.injEq,
      Ref.batch.injEq] at ha hb hne ⊢ <;> omega
  exact ⟨s.depth - 2, by omega⟩

/-- Whether two frozen builders are the same stays as it is if one of them is well typed. -/
theorem sameBuilders_grown (hwf : s.WellFormed) (hgrows : s.Grows s') {a b : Ref}
    (htyped : s.TypedBuilder a ∨ s.TypedBuilder b) (ha : s.Frozen a) (hb : s.Frozen b) :
    s'.sameBuilders s'.depth a b = s.sameBuilders s.depth a b := by
  by_cases hab : a = b
  · rw [hab, sameBuilders_self, sameBuilders_self]
  obtain ⟨d, hd⟩ := exists_depth_eq ha.has hb.has hab
  obtain ⟨d', hd'⟩ := exists_depth_eq (hgrows.has ha.has) (hgrows.has hb.has) hab
  rw [hd, hd']
  cases a with
  | group i =>
      cases b with
      | group j =>
          exact sameBuilders_group_congr htyped (hgrows.same_of_frozen ha) (hgrows.same_of_frozen hb)
      | _ => rfl
  | unit i =>
      cases b with
      | unit j => exact sameBuilders_unit_congr hwf hgrows htyped ha hb
      | _ => rfl
  | batch i => exact ha.elim

/-- What a lasting value is the same as, of all values that are immutable, stays as it is. -/
theorem Lasting.same_grown (hwf : s.WellFormed) (hgrows : s.Grows s') (hv : s.Lasting v)
    (hw : s.Immutable w) : s'.same v w = s.same v w ∧ s'.same w v = s.same w v := by
  have hlasting := Value.Typed.mentioned v hv
  have hfrozen : ∀ ref ∈ w.mentions, s.Frozen ref := fun ref href => hw ref (.mention href)
  constructor
  · exact Value.same_congr v w fun a ha b hb =>
      sameBuilders_grown hwf hgrows (.inl (hlasting a ha).1) (hlasting a ha).2 (hfrozen b hb)
  · exact Value.same_congr w v fun a ha b hb =>
      sameBuilders_grown hwf hgrows (.inr (hlasting b hb).1) (hfrozen a ha) (hlasting b hb).2

end Store

namespace Session

open Building

/-- What it means that a value is kept for good, from a session on. Whatever a script does, the value
reaches frozen builders only, which stay exactly as they are, and so does whatever a path into it leads
to; its text is settled, it is the same as the same immutable values, and it always has lasting content. -/
structure KeepsForGood (σ : Session) (v : Value) : Prop where
  immutable : ∀ script, (σ.after script).store.Immutable v
  contents : ∀ script ref, σ.store.Reaches v ref → σ.store.Same (σ.after script).store ref
  walks : ∀ script path w s, (walk v path).run (σ.after script).store = .ok w s → s.Immutable w
  text : ∃ text, ∀ script, v.commandText (σ.after script).store.texts = .ok text
  same : ∀ before later w, (σ.after before).store.Immutable w →
    ((σ.after before).after later).store.same v w = (σ.after before).store.same v w ∧
      ((σ.after before).after later).store.same w v = (σ.after before).store.same w v
  hash : ∀ script, (checkSettled v).run (σ.after script).store = .ok () (σ.after script).store

variable {σ : Session} {v : Value}

theorem keepsForGood_of_lasting (hσ : σ.WellFormed) {s : Store} (hstore : σ.store = s)
    (h : s.Lasting v) (hcited : ∀ ref ∈ v.cited, s.Frozen ref) {text : String}
    (htext : v.commandText s.texts = .ok text) : σ.KeepsForGood v := by
  subst hstore
  have hgrows := after_grows hσ
  have hlasting (script : List Step) : (σ.after script).store.Lasting v :=
    h.grows hσ.store (hgrows script)
  have hwf (script : List Step) := after_wellFormed hσ script
  have himmutable := h.immutable hσ.store
  refine ⟨fun script => himmutable.grows (hgrows script), fun script ref href =>
    (hgrows script).same_of_frozen (himmutable ref href), fun script path w s hrun => ?_,
    ⟨text, fun script => ((hgrows script).commandText_eq hcited).trans htext⟩,
    fun before later w hw => ?_, fun script => ?_⟩
  · have hwalk := reads_walk (σ.after script).store.inherits_immutable path v
      (himmutable.grows (hgrows script))
    simp only [Reads, hrun] at hwalk
    obtain ⟨rfl, hw⟩ := hwalk
    exact hw
  · exact (hlasting before).same_grown (hwf before).store (after_grows (hwf before) later) hw
  · have hnone := (hlasting script).unsettled?_eq_none (hwf script).store
    simp only [checkSettled, EStateM.run_bind, EStateM.run_get, hnone]
    rfl

/-- Of a well-typed command an entry is kept that is lasting and stands for a text. -/
theorem entry_lasting {s : Store} (hwf : s.WellFormed) (hholds : s.Holds v)
    (hfits : Kind.command.Fits v) (htyped : s.WellTyped v) :
    ∃ kept s' text, (entry v).run s = .ok kept s' ∧ s.Leads (fun _ => False) s' ∧ s.StaysIn s' ∧
      s'.Holds kept ∧ s'.Lasting kept ∧ (∀ ref ∈ kept.cited, s'.Frozen ref) ∧
      kept.commandText s'.texts = .ok text := by
  obtain ⟨kept, s', hrun, hstays, hentry, hkept⟩ := (entry_makes hfits htyped).ok
  obtain ⟨hleads, hholds', hcited, -⟩ := (entry_runs hwf hholds).answered hrun
  obtain ⟨text, hrendered⟩ := hkept.entry_rendered hentry
  exact ⟨kept, s', text, hrun, hleads, hstays, hholds', hkept.lasting hentry hcited, hcited,
    hrendered.commandText hentry⟩

/-- A batch takes of a well-typed command what is kept of it, and of what was there only the batch
changes. -/
theorem append_lasting {s : Store} {i : Nat} {b : Batch} (hwf : s.WellFormed)
    (hb : s.batches[i]? = some b) (hholds : s.Holds v) (hfits : Kind.command.Fits v)
    (htyped : s.WellTyped v) :
    ∃ kept s' text, (entry v).run s = .ok kept s' ∧ s.Leads (fun _ => False) s' ∧
      s'.batches[i]? = some b ∧ s'.Lasting kept ∧ (∀ ref ∈ kept.cited, s'.Frozen ref) ∧
      kept.commandText s'.texts = .ok text ∧
      (append i v).run s =
        .ok () (s'.setBatch i ⟨b.commands ++ [kept], b.separated.text ++ text⟩) ∧
      s'.Leads (· = .batch i) (s'.setBatch i ⟨b.commands ++ [kept], b.separated.text ++ text⟩) := by
  obtain ⟨kept, s', text, hentry, hleads, -, hkept, hlasting, hcited, htext⟩ :=
    entry_lasting hwf hholds hfits htyped
  have hsame : s'.batches[i]? = s.batches[i]? :=
    hleads.frame (.batch i) (Store.has_batch hb) not_false
  have hb' : s'.batches[i]? = some b := hsame.trans hb
  -- The separator that is written first belongs to no command, so it changes no text of one.
  have hsep := separate_leads (· = .batch i) hleads.wellFormed hb' rfl
  have happend := run_append_ok hentry hb' ((hsep.grows.commandText_eq hcited).trans htext)
  obtain ⟨hput, -⟩ := putEntry_leads (· = .batch i) hleads.wellFormed hb' hkept hcited htext rfl
  exact ⟨kept, s', text, hentry, hleads, hb', hlasting, hcited, htext, happend, hput⟩

/-- What a batch takes of a well-typed command is kept for good. -/
theorem append_keepsForGood (hσ : σ.WellFormed) {on : String} {i : Nat} {e : Expression}
    (into : Option String) (hbatch : σ.value on = .builder (.batch i))
    (htyped : e.Typed σ.store σ.slots .command) :
    (∃ fault, (σ.run (.call on (.append e) into)).1 = .error fault ∧ e.Raises σ.slots fault) ∨
    ∃ b text kept, σ.store.batches[i]? = some b ∧
      (σ.run (.call on (.append e) into)).2.store.batches[i]? = some ⟨b.commands ++ [kept], text⟩ ∧
      (σ.run (.call on (.append e) into)).2.KeepsForGood kept := by
  have hmakes := Expression.build_makes htyped σ.store (.refl σ.store)
  have hruns : Runs (fun _ => False) False _ (e.build σ.slots) σ.store _ :=
    e.build_runs σ.slots σ.store hσ.store hσ.slots
  unfold Makes at hmakes
  cases hbuild : (e.build σ.slots).run σ.store with
  | error fault s =>
      simp only [hbuild] at hmakes
      have hrun : (σ.action (.call on (.append e) into)).run σ.store = .error fault s := by
        simp only [action, perform, hbatch]
        exact run_bind_error hbuild
      exact Or.inl ⟨fault, by rw [run_of_error hrun], hmakes⟩
  | ok v s =>
      simp only [hbuild] at hmakes
      obtain ⟨hstays, hfits, hv⟩ := hmakes
      obtain ⟨hleads, hholds⟩ := hruns.answered hbuild
      have hhas : σ.store.Has (.batch i) := by
        have hheld := hσ.holds_value on
        rwa [hbatch] at hheld
      obtain ⟨b, hb⟩ : ∃ b, σ.store.batches[i]? = some b := ⟨_, List.getElem?_eq_getElem hhas⟩
      have hsame : s.batches[i]? = σ.store.batches[i]? := hstays (.batch i) hhas
      obtain ⟨kept, s', text, -, hleads', hb', hlasting, hcited, htext, happend, hput⟩ :=
        append_lasting hleads.wellFormed (hsame.trans hb) hholds hfits hv
      have hrun : (σ.action (.call on (.append e) into)).run σ.store = .ok (.value (.builder (.batch i)))
          (s'.setBatch i ⟨b.commands ++ [kept], b.separated.text ++ text⟩) := by
        simp only [action, perform, hbatch]
        rw [run_bind_ok hbuild, run_bind_ok happend]
        rfl
      obtain ⟨-, hstore, -⟩ := run_of_ok hrun
      refine Or.inr ⟨b, b.separated.text ++ text, kept, hb, ?_, ?_⟩
      · rw [hstore]
        exact List.getElem?_set_self (Store.has_batch hb')
      · exact keepsForGood_of_lasting (run_wellFormed hσ _) hstore
          (hlasting.grows hleads'.wellFormed hput.grows) (fun ref href => hput.grows.frozen (hcited ref href))
          ((hput.grows.commandText_eq hcited).trans htext)

/-- A binding or a rule that is made of well-typed parts is kept for good. -/
theorem assign_keepsForGood (hσ : σ.WellFormed) {name : String} {f : TopLevelForm}
    {given : List (String × Expression)}
    (htyped : (Expression.record (.topLevel f) given).Typed σ.store σ.slots .command) :
    (∃ fault, (σ.run (.assign name (.record (.topLevel f) given))).1 = .error fault ∧
      (Expression.record (.topLevel f) given).Raises σ.slots fault) ∨
    ∃ fields, (σ.run (.assign name (.record (.topLevel f) given))).1 =
        .ok (.value (.record (.topLevel f) fields)) ∧
      (σ.run (.assign name (.record (.topLevel f) given))).2.value name = .record (.topLevel f) fields ∧
      (σ.run (.assign name (.record (.topLevel f) given))).2.KeepsForGood
        (.record (.topLevel f) fields) := by
  have hmakes := Expression.build_makes htyped.record_self σ.store (.refl σ.store)
  have hruns : Runs (fun _ => False) False _
      ((Expression.record (.topLevel f) given).build σ.slots) σ.store _ :=
    Expression.build_runs σ.slots _ σ.store hσ.store hσ.slots
  unfold Makes at hmakes
  cases hbuild : ((Expression.record (.topLevel f) given).build σ.slots).run σ.store with
  | error fault s =>
      simp only [hbuild] at hmakes
      have hrun : (σ.action (.assign name (.record (.topLevel f) given))).run σ.store = .error fault s := by
        simp only [action]
        rw [run_map_error hbuild]
      exact Or.inl ⟨fault, by rw [run_of_error hrun], hmakes⟩
  | ok v s =>
      simp only [hbuild] at hmakes
      obtain ⟨-, hfits, hv⟩ := hmakes
      obtain ⟨hleads, hholds⟩ := hruns.answered hbuild
      obtain ⟨_, hform, fields, rfl⟩ := hfits
      obtain rfl := List.mem_singleton.mp hform
      have hentry : (Value.record (.topLevel f) fields).IsEntry := Or.inr (Or.inr (Or.inl ⟨f, fields, rfl⟩))
      have hcited := hholds.cited
      obtain ⟨text, hrendered⟩ := hv.entry_rendered hentry
      have hrun := run_assign_of_ok name hbuild
      rw [hrun]
      refine Or.inr ⟨fields, rfl, value_put _ name _, ?_⟩
      exact keepsForGood_of_lasting (hrun ▸ run_wellFormed hσ (.assign name _)) rfl
        (hv.lasting hentry hcited) hcited (hrendered.commandText hentry)

/-- In every state that a script leads to, a well-typed command, sub-command or text that is appended to a
batch, and a binding or a rule that is made of well-typed parts, is kept for good: nothing that can be
changed is reached from it, and its text, its sameness with other immutable values and its lasting content
stay as they are whatever is done later. Only the documented checks of records stand in the way. -/
theorem stored_keepsForGood (script : List Step) :
    (∀ (on : String) (i : Nat) (e : Expression) (into : Option String),
      (start.after script).value on = .builder (.batch i) →
      e.Typed (start.after script).store (start.after script).slots .command →
      (∃ fault, ((start.after script).run (.call on (.append e) into)).1 = .error fault ∧
        e.Raises (start.after script).slots fault) ∨
      ∃ b text kept, (start.after script).store.batches[i]? = some b ∧
        ((start.after script).run (.call on (.append e) into)).2.store.batches[i]? =
          some ⟨b.commands ++ [kept], text⟩ ∧
        ((start.after script).run (.call on (.append e) into)).2.KeepsForGood kept) ∧
    (∀ (name : String) (f : TopLevelForm) (given : List (String × Expression)),
      (Expression.record (.topLevel f) given).Typed (start.after script).store
        (start.after script).slots .command →
      (∃ fault, ((start.after script).run (.assign name (.record (.topLevel f) given))).1 = .error fault ∧
        (Expression.record (.topLevel f) given).Raises (start.after script).slots fault) ∨
      ∃ fields, ((start.after script).run (.assign name (.record (.topLevel f) given))).1 =
          .ok (.value (.record (.topLevel f) fields)) ∧
        ((start.after script).run (.assign name (.record (.topLevel f) given))).2.value name =
          .record (.topLevel f) fields ∧
        ((start.after script).run (.assign name (.record (.topLevel f) given))).2.KeepsForGood
          (.record (.topLevel f) fields)) := by
  have hwf := after_wellFormed wellFormed_start script
  exact ⟨fun _ _ _ into hbatch htyped => append_keepsForGood hwf into hbatch htyped,
    fun _ _ _ htyped => assign_keepsForGood hwf htyped⟩

/-- A unit that may be changed, and a batch. -/
def unitAndBatch : List Step :=
  [.assign "unit" (.unit [(.criterion, .record (.criterion .floating) []),
      (.command, .record (.subCommand .kill) [])] false),
    .assign "batch" (.batch [])]

theorem slot_unit_typed : (Expression.slot "unit").Typed (start.after unitAndBatch).store
    (start.after unitAndBatch).slots .command := by
  have hcriterion : (Value.record (.criterion .floating) []).TypedCriterion :=
    ⟨⟨_, _, rfl⟩, Value.typed_record .nil rfl fun _ h => absurd h List.not_mem_nil⟩
  have hcommand : (Value.record (.subCommand .kill) []).TypedSubCommand :=
    ⟨⟨_, _, rfl⟩, Value.typed_record .nil rfl fun _ h => absurd h List.not_mem_nil⟩
  refine .slot (Or.inl (Or.inl ⟨0, rfl⟩)) (Store.wellTyped_builder
    ⟨_, rfl, List.forall_mem_singleton.mpr hcommand, ?_⟩)
  rintro c ⟨⟩
  exact ⟨_, rfl, List.forall_mem_singleton.mpr hcriterion⟩

theorem editable_unit_keepsForGood :
    (start.after unitAndBatch).value "batch" = .builder (.batch 0) ∧
    (Expression.slot "unit").Typed (start.after unitAndBatch).store
      (start.after unitAndBatch).slots .command ∧
    (Expression.windowRule .tiling (.slot "unit")).Typed (start.after unitAndBatch).store
      (start.after unitAndBatch).slots .command ∧
    ((start.after unitAndBatch).run (.call "batch" (.append (.slot "unit")) none)).2.KeepsForGood
      (.builder (.unit 1)) ∧
    ((start.after unitAndBatch).run
      (.assign "rule" (Expression.windowRule .tiling (.slot "unit")))).2.KeepsForGood
        (.record (.topLevel .forWindow) [.builder (.group 2), .builder (.unit 1)]) := by
  have hrule : (Expression.windowRule .tiling (.slot "unit")).Typed (start.after unitAndBatch).store
      (start.after unitAndBatch).slots .command := Expression.windowRule_typed rfl slot_unit_typed
  refine ⟨rfl, slot_unit_typed, hrule, ?_, ?_⟩
  · rcases (stored_keepsForGood unitAndBatch).1 "batch" 0 (.slot "unit") none rfl slot_unit_typed with
      ⟨fault, hfault, -⟩ | ⟨b, text, kept, hb, hb', hkept⟩
    · cases hfault
    · cases hb
      cases hb'
      exact hkept
  · rcases (stored_keepsForGood unitAndBatch).2 "rule" .forWindow _ hrule with
      ⟨fault, hfault, -⟩ | ⟨fields, hanswer, -, hkept⟩
    · cases hfault
    · cases hanswer
      exact hkept

end Session

end SwayControl
