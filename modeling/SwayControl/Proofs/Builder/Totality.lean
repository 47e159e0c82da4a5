import SwayControl.Builder.Described
import SwayControl.Proofs.Builder.Evaluation
import SwayControl.Proofs.Builder.Typing
import SwayControl.Proofs.Grammar.CommandAgreement

/-!
Building and writing is total on well-typed values. An expression of well-typed parts builds a well-typed
value of its kind unless a check of one of its records complains, and every well-typed value is written
by the part of the renderer that is meant for its form.
-/

namespace SwayControl

/-- What a unit takes as a part. -/
def UnitPart.kind : UnitPart → Kind
  | .criterion => .criterion
  | .command => .subCommand

namespace Expression

/-- Whether an expression describes a value of a kind by well-typed parts. Slots stand for the well-typed
values that they hold. A record is given fields that its form has, each of its declared kind and all that
it needs; of a group and a unit only which of the two it is decides whether it is of a kind. -/
inductive Typed (s : Store) (slots : Slots) : Kind → Expression → Prop
  | literal {kind l} (hfits : kind.Fits l.value) : Typed s slots kind (.literal l)
  | slot {kind name} (hfits : kind.Fits ((slots.lookup name).getD .absent))
      (htyped : s.WellTyped ((slots.lookup name).getD .absent)) : Typed s slots kind (.slot name)
  | tuple {item items} (hitems : ∀ e ∈ items, Typed s slots item e) :
      Typed s slots (.tuple item) (.tuple items)
  | pair {first second a b} (ha : Typed s slots first a) (hb : Typed s slots second b) :
      Typed s slots (.pair first second) (.tuple [a, b])
  | left {left right e} (h : Typed s slots left e) : Typed s slots (.either left right) e
  | right {left right e} (h : Typed s slots right e) : Typed s slots (.either left right) e
  | record {kind form given} (hkind : kind.Fits (.record form []))
      (hknown : ∀ p ∈ given, p.1 ∈ form.fieldNames)
      (hneeded : ∀ field ∈ form.signature.fields, field.fallback = none →
        field.name ∈ given.map Prod.fst)
      (hgiven : ∀ slot ∈ form.signature.fields.zip form.kinds, ∀ e, (slot.1.name, e) ∈ given →
        Typed s slots slot.2 e) : Typed s slots kind (.record form given)
  | group {kind criteria frozen} (hkind : kind.Fits (.builder (.group 0))) (hne : criteria ≠ [])
      (hcriteria : ∀ e ∈ criteria, Typed s slots .criterion e) :
      Typed s slots kind (.group criteria frozen)
  | unit {kind parts frozen} (hkind : kind.Fits (.builder (.unit 0)))
      (hparts : ∀ part ∈ parts, Typed s slots part.1.kind part.2) :
      Typed s slots kind (.unit parts frozen)

/-- A description of a record is one of a record of its form, whatever kinds are asked for. -/
theorem Typed.record_self {s : Store} {slots : Slots} {kind : Kind} {form : Form}
    {given : List (String × Expression)} (h : Typed s slots kind (.record form given)) :
    Typed s slots (.record [form]) (.record form given) := by
  generalize he : Expression.record form given = e at h
  induction h with
  | record _ hknown hneeded hgiven =>
      cases he
      exact .record ⟨_, List.mem_singleton_self _, _, rfl⟩ hknown hneeded hgiven
  | left _ ih | right _ ih => exact ih he
  | _ => cases he

/-- Whether some record in an expression raises a fault: what it is given was built, and does not pass the
check of its form, for the reason that is documented. -/
inductive Raises (slots : Slots) (fault : Fault) : Expression → Prop
  | here {form given t values t'}
      (hbuild : (buildFields slots given).run t = .ok values t')
      (hcheck : checkRecord form (form.complete values) = .error fault)
      (hdocumented : fault.Documented) : Raises slots fault (.record form given)
  | field {form given p} (hp : p ∈ given) (h : Raises slots fault p.2) :
      Raises slots fault (.record form given)
  | item {items e} (he : e ∈ items) (h : Raises slots fault e) : Raises slots fault (.tuple items)
  | criterion {criteria frozen e} (he : e ∈ criteria) (h : Raises slots fault e) :
      Raises slots fault (.group criteria frozen)
  | part {parts frozen p} (hp : p ∈ parts) (h : Raises slots fault p.2) :
      Raises slots fault (.unit parts frozen)

open Building

section

variable {s t : Store} {slots : Slots} {raises : Fault → Prop}

/-- What is said of every value that is built goes on holding while others are. -/
theorem buildAll_makes (good : Value → Store → Prop) {items : List Expression}
    (hgood : ∀ v t t', t.StaysIn t' → good v t → good v t')
    (hitems : ∀ e ∈ items, ∀ t, s.StaysIn t → Makes raises (build slots e) t good)
    (ht : s.StaysIn t) :
    Makes raises (buildAll slots items) t fun vs t' =>
      vs.length = items.length ∧ ∀ v ∈ vs, good v t' := by
  induction items generalizing t with
  | nil => exact .pure ⟨rfl, fun _ hv => absurd hv List.not_mem_nil⟩
  | cons e rest ih =>
      obtain ⟨he, hrest⟩ := List.forall_mem_cons.mp hitems
      simp only [buildAll]
      refine (he t ht).bind fun v t' hstays hv => ?_
      refine (ih hrest (ht.trans hstays)).bind fun vs t'' hstays' hvs => .pure ⟨?_, ?_⟩
      · rw [List.length_cons, List.length_cons, hvs.1]
      · exact List.forall_mem_cons.mpr ⟨hgood v _ _ hstays' hv, hvs.2⟩

theorem buildFields_makes (good : String → Value → Store → Prop) {given : List (String × Expression)}
    (hgood : ∀ name v t t', t.StaysIn t' → good name v t → good name v t')
    (hgiven : ∀ p ∈ given, ∀ t, s.StaysIn t → Makes raises (build slots p.2) t (good p.1))
    (ht : s.StaysIn t) :
    Makes raises (buildFields slots given) t fun values t' =>
      values.map Prod.fst = given.map Prod.fst ∧ ∀ p ∈ values, good p.1 p.2 t' := by
  induction given generalizing t with
  | nil => exact .pure ⟨rfl, fun _ hv => absurd hv List.not_mem_nil⟩
  | cons p rest ih =>
      obtain ⟨hp, hrest⟩ := List.forall_mem_cons.mp hgiven
      obtain ⟨name, e⟩ := p
      simp only [buildFields]
      refine (hp t ht).bind fun v t' hstays hv => ?_
      refine (ih hrest (ht.trans hstays)).bind fun vs t'' hstays' hvs => .pure ⟨?_, ?_⟩
      · rw [List.map_cons, List.map_cons, hvs.1]
      · exact List.forall_mem_cons.mpr ⟨hgood name v _ _ hstays' hv, hvs.2⟩

theorem buildParts_makes {parts : List (UnitPart × Expression)}
    (hparts : ∀ p ∈ parts, ∀ t, s.StaysIn t →
      Makes raises (build slots p.2) t fun v _ => TypedPart (p.1, v)) (ht : s.StaysIn t) :
    Makes raises (buildParts slots parts) t fun values _ => ∀ p ∈ values, TypedPart p := by
  induction parts generalizing t with
  | nil => exact .pure fun _ hv => absurd hv List.not_mem_nil
  | cons p rest ih =>
      obtain ⟨hp, hrest⟩ := List.forall_mem_cons.mp hparts
      obtain ⟨role, e⟩ := p
      simp only [buildParts]
      refine (hp t ht).bind fun v t' hstays hv => ?_
      refine (ih hrest (ht.trans hstays)).bind fun vs t'' _ hvs => .pure ?_
      exact List.forall_mem_cons.mpr ⟨hv, hvs⟩

end

/-- A value of a kind that is well typed in a store. -/
def Good (kind : Kind) (v : Value) (s : Store) : Prop := kind.Fits v ∧ s.WellTyped v

theorem Good.stays {kind : Kind} {v : Value} {s s' : Store} (hstays : s.StaysIn s')
    (h : Good kind v s) : Good kind v s' :=
  ⟨h.1, hstays.wellTyped h.2⟩

/-- All fields of a form are of their kinds if those that are given are and no needed one is missing. -/
theorem complete_good {form : Form} {values : List (String × Value)} {s : Store}
    (hneeded : ∀ field ∈ form.signature.fields, field.fallback = none →
      field.name ∈ values.map Prod.fst)
    (hvalues : ∀ p ∈ values, ∀ slot ∈ form.signature.fields.zip form.kinds, slot.1.name = p.1 →
      Good slot.2 p.2 s) :
    List.Forall₂ Kind.Fits form.kinds (form.complete values) ∧
      ∀ v ∈ form.complete values, s.WellTyped v := by
  have hslot : ∀ slot ∈ form.signature.fields.zip form.kinds,
      Good slot.2 ((values.lookup slot.1.name).getD (slot.1.fallback.getD .absent)) s := by
    intro slot hslot
    cases hvalue : values.lookup slot.1.name with
    | some v =>
        obtain ⟨before, after, hsplit, -⟩ := List.lookup_eq_some_iff.mp hvalue
        exact hvalues (slot.1.name, v) (by simp [hsplit]) slot hslot rfl
    | none =>
        have hmissing : slot.1.name ∉ values.map Prod.fst := by
          rintro hmem
          obtain ⟨p, hp, hname⟩ := List.mem_map.mp hmem
          have hnot := List.lookup_eq_none_iff.mp hvalue p hp
          simp [hname] at hnot
        cases hfallback : slot.1.fallback with
        | none => exact absurd (hneeded slot.1 (List.of_mem_zip hslot).1 hfallback) hmissing
        | some v => exact form.fallback_fits slot hslot v hfallback
  have hall : List.Forall₂ (fun v (kind : Kind) => s.WellTyped v ∧ kind.Fits v)
      (form.complete values) form.kinds := by
    rw [List.forall₂_iff_zip]
    refine ⟨(form.length_complete values).trans form.length_kinds.symm, fun hmem => ?_⟩
    rw [Form.complete, List.zip_map_left] at hmem
    obtain ⟨slot, hslot', hpair⟩ := List.mem_map.mp hmem
    cases hpair
    exact (hslot slot hslot').symm
  obtain ⟨htyped, hfits⟩ := (List.forall₂_and_left _ _).mp hall
  exact ⟨hfits.flip, htyped⟩

/-- An expression of well-typed parts builds a well-typed value of its kind, unless one of its records
does not pass its check. -/
theorem build_makes {s : Store} {slots : Slots} {kind : Kind} {e : Expression}
    (h : Typed s slots kind e) :
    ∀ t, s.StaysIn t → Makes (fun fault => e.Raises slots fault) (e.build slots) t (Good kind) := by
  -- The parts are built one after another, so each is looked at in every later store.
  induction h with
  | @literal kind l hfits =>
      intro t _
      simp only [build]
      refine .pure ⟨hfits, ?_⟩
      cases l <;> trivial
  | slot hfits htyped =>
      intro t ht
      simp only [build]
      exact .pure ⟨hfits, ht.wellTyped htyped⟩
  | @tuple item items _ ih =>
      intro t ht
      simp only [build]
      refine (buildAll_makes (Good item) (fun _ _ _ => Good.stays)
        (fun e he t' ht' => (ih e he t' ht').mono fun _ => .item he) ht).bind fun vs t' _ hvs => ?_
      exact .pure ⟨⟨vs, rfl, fun v hv => (hvs.2 v hv).1⟩,
        Value.typed_tuple fun v hv => (hvs.2 v hv).2⟩
  | @pair _ _ a b _ _ iha ihb =>
      intro t ht
      simp only [build, buildAll, bind_assoc, pure_bind]
      have hraises : ∀ e ∈ [a, b], ∀ fault, Raises slots fault e → Raises slots fault (.tuple [a, b]) :=
        fun e he _ => .item he
      refine ((iha t ht).mono (hraises a (by simp))).bind fun v t' hstays hv => ?_
      refine ((ihb t' (ht.trans hstays)).mono (hraises b (by simp))).bind fun w t'' hstays' hw =>
        .pure ⟨⟨v, w, rfl, hv.1, hw.1⟩, ?_⟩
      exact Value.typed_tuple (by
        simpa only [List.forall_mem_cons, List.not_mem_nil, false_implies, implies_true, and_true]
          using ⟨(hv.stays hstays').2, hw.2⟩)
  | left _ ih => exact fun t ht => (ih t ht).imp fun v t' _ hv => ⟨Or.inl hv.1, hv.2⟩
  | right _ ih => exact fun t ht => (ih t ht).imp fun v t' _ hv => ⟨Or.inr hv.1, hv.2⟩
  | @record kind form given hkind hknown hneeded _ ih =>
      intro t ht
      simp only [build]
      -- Nothing says that the fields of a form differ in name, so each place of a name is looked at.
      have hgood : ∀ p ∈ given, ∀ t, s.StaysIn t → Makes (fun fault => Raises slots fault (.record form given))
          (build slots p.2) t fun v t' => ∀ slot : { slot : Field × Kind //
            slot ∈ form.signature.fields.zip form.kinds ∧ slot.1.name = p.1 }, Good slot.1.2 v t' :=
        fun p hp t' ht' => by
          obtain ⟨field, hfield, hname⟩ := List.mem_map.mp (hknown p hp)
          obtain ⟨i, hi, rfl⟩ := List.getElem_of_mem hfield
          have hi' : i < form.kinds.length := form.length_kinds ▸ hi
          have hslot : (form.signature.fields[i], form.kinds[i]) ∈
              form.signature.fields.zip form.kinds :=
            List.mem_iff_getElem.mpr ⟨i, by simpa using ⟨hi, hi'⟩, List.getElem_zip⟩
          refine Makes.all ⟨_, hslot, hname⟩ fun slot => ?_
          have hgiven : (slot.1.1.name, p.2) ∈ given := by rw [slot.2.2]; exact hp
          exact (ih slot.1 slot.2.1 p.2 hgiven t' ht').mono fun _ => .field hp
      refine (buildFields_makes (fun name v t' => ∀ slot : { slot : Field × Kind //
          slot ∈ form.signature.fields.zip form.kinds ∧ slot.1.name = name }, Good slot.1.2 v t')
        (fun name v t' t'' hstays hv slot => (hv slot).stays hstays) hgood ht).bind_run
          fun values t' hbuild _ hvalues => ?_
      have hneeded' : ∀ field ∈ form.signature.fields, field.fallback = none →
          field.name ∈ values.map Prod.fst := by rwa [hvalues.1]
      obtain ⟨hfits, htyped⟩ := complete_good hneeded' fun p hp slot hslot hname =>
        hvalues.2 p hp ⟨slot, hslot, hname⟩
      refine (record_makes hfits htyped fun fault => .here hbuild).imp ?_
      rintro v t'' - ⟨⟨kept, rfl⟩, hv⟩
      exact ⟨hkind.of_resembles (.record ..), hv⟩
  | group hkind hne _ ih =>
      intro t ht
      simp only [build]
      refine (buildAll_makes (fun v _ => v.TypedCriterion) (fun _ _ _ _ hv => hv)
        (fun e he t' ht' => ((ih e he t' ht').mono fun _ => .criterion he).imp fun v _ _ hv =>
          ⟨hv.1, Value.Typed.mono (fun _ _ => trivial) v hv.2⟩) ht).bind fun vs t' _ hvs => ?_
      have hvs' : vs ≠ [] := fun hnil => hne (List.length_eq_zero_iff.mp (by rw [← hvs.1, hnil]; rfl))
      refine (buildGroup_makes hvs' hvs.2 _).imp ?_
      rintro v t'' - ⟨⟨i, rfl⟩, hv⟩
      exact ⟨hkind.of_resembles (.group ..), hv⟩
  | unit hkind _ ih =>
      intro t ht
      simp only [build]
      refine (buildParts_makes (fun p hp t' ht' =>
        ((ih p hp t' ht').mono fun _ => .part hp).imp fun v _ _ hv => ?_) ht).bind
          fun values t' _ hvalues => ?_
      · have hv' : v.Typed fun _ => True := Value.Typed.mono (fun _ _ => trivial) v hv.2
        obtain ⟨role, e⟩ := p
        cases role <;> exact ⟨hv.1, hv'⟩
      · refine (buildUnit_makes hvalues _).imp ?_
        rintro v t'' - ⟨⟨i, rfl⟩, hv⟩
        exact ⟨hkind.of_resembles (.unit ..), hv⟩

end Expression

/-- The families of values that stand for a text of their own: criteria, groups, sub-commands, and the
entries that are kept of commands. -/
def Value.IsWritten (v : Value) : Prop :=
  Kind.criterion.Fits v ∨ Kind.group.Fits v ∨ v.IsSubCommand ∨ v.IsEntry

namespace Store

/-- How a value is written: a record by the part of the renderer for its own form, raw text as it is, and
a builder as it stands and also from what it holds. -/
inductive Rendered (s : Store) : Value → String → Prop
  | criterion {form fields c} (hread : (Value.record (.criterion form) fields).readCriterion = .ok c)
      (hform : c.form = form) : Rendered s (.record (.criterion form) fields) c.render
  | subCommand {form fields c} (hread : (Value.record (.subCommand form) fields).readSubCommand = .ok c)
      (hform : c.form = form) : Rendered s (.record (.subCommand form) fields) c.render
  | topLevel {form fields c}
      (hread : (Value.record (.topLevel form) fields).readTopLevel s.texts = .ok c)
      (hform : c.form = form) : Rendered s (.record (.topLevel form) fields) c.render
  | configLine {form fields c} (hread : (Value.record (.configLine form) fields).readConfigLine = .ok c)
      (hform : c.form = form) : Rendered s (.record (.configLine form) fields) c.render
  | raw {line text} (hread : line.readText = .ok text) : Rendered s (.raw line) text
  | group {i g text} (hg : s.groups[i]? = some g) (hwritten : clauseText g.criteria = .ok text) :
      Rendered s (.builder (.group i)) g.text
  | unit {i u text} (hu : s.units[i]? = some u)
      (hwritten : unitText s.texts u.clause u.commands = .ok text) :
      Rendered s (.builder (.unit i)) u.text

variable {s : Store} {v : Value} {text : String}

/-- What a value is written as is what it stands for. -/
theorem Rendered.standsFor (h : s.Rendered v text) : v.standsFor s.texts = .ok text := by
  cases h with
  | criterion hread _ => exact map_eq_ok.mpr ⟨_, hread, rfl⟩
  | subCommand hread _ | topLevel hread _ | configLine hread _ =>
      simp only [Value.standsFor, Value.commandText]
      exact map_eq_ok.mpr ⟨_, hread, rfl⟩
  | raw hread => simpa only [Value.standsFor, Value.raw, Value.commandText] using hread
  | group hg _ => simp only [Value.standsFor, texts, hg, Option.elim_some]
  | unit hu _ => simp only [Value.standsFor, texts, hu, Option.elim_some]

/-- An entry that is written stands for its text as a command. -/
theorem Rendered.commandText (h : s.Rendered v text) (hentry : v.IsEntry) :
    v.commandText s.texts = .ok text := by
  have hstands := h.standsFor
  rcases hentry with ⟨i, rfl⟩ | ⟨fields, rfl⟩ | ⟨form, fields, rfl⟩ | ⟨form, fields, rfl⟩ <;>
    exact hstands

theorem clauseText_ok {criteria : List Value} (h : ∀ c ∈ criteria, c.TypedCriterion) :
    ∃ text, clauseText criteria = .ok text := by
  obtain ⟨read, hread⟩ := mapM_eq_ok_of_forall fun c hc => (h c hc).read
  exact ⟨_, by rw [clauseText, hread]; rfl⟩

theorem unitText_ok {texts : Ref → String} {clause : Option Nat} {commands : List Value}
    (h : ∀ c ∈ commands, c.TypedSubCommand) : ∃ text, unitText texts clause commands = .ok text := by
  obtain ⟨written, hwritten⟩ := mapM_eq_ok_of_forall
    (f := fun command : Value => SubCommand.render <$> command.readSubCommand) fun c hc => by
      obtain ⟨command, hread⟩ := (h c hc).read
      exact ⟨command.render, map_eq_ok.mpr ⟨command, hread, rfl⟩⟩
  exact ⟨_, unitText_of_written hwritten⟩

/-- A well-typed entry is written by the renderer of its family. -/
theorem WellTyped.entry_rendered (h : s.WellTyped v) (hentry : v.IsEntry) :
    ∃ text, s.Rendered v text := by
  have hmatched := Value.Typed.matched h .entry hentry
  obtain ⟨text, -, htext, -⟩ := hmatched.commandText fun a b _ _ hab =>
    congrArg s.texts (eq_of_beq hab)
  rcases hentry with ⟨i, rfl⟩ | ⟨fields, rfl⟩ | ⟨form, fields, rfl⟩ | ⟨form, fields, rfl⟩
  · obtain ⟨u, hu, hcommands, -⟩ := h.builder
    obtain ⟨written, hwritten⟩ := unitText_ok hcommands
    exact ⟨u.text, .unit hu hwritten⟩
  · obtain _ | ⟨line, _ | _⟩ := hmatched.fields.2
    exact ⟨text, .raw htext⟩
  · simp only [Value.commandText] at htext
    obtain ⟨c, hread, -⟩ := map_eq_ok.mp htext
    exact ⟨c.render, .topLevel hread (form_of_readTopLevelFields c hread)⟩
  · simp only [Value.commandText] at htext
    obtain ⟨c, hread, -⟩ := map_eq_ok.mp htext
    exact ⟨c.render, .configLine hread (form_of_readConfigLineFields c hread)⟩

/-- Every well-typed value of a family is written by the renderer of that family. -/
theorem WellTyped.rendered (h : s.WellTyped v) (hv : v.IsWritten) : ∃ text, s.Rendered v text := by
  rcases hv with ⟨form, fields, rfl⟩ | ⟨i, rfl⟩ | ⟨form, fields, rfl⟩ | hentry
  · obtain ⟨c, -, hread, -⟩ := (Value.Typed.matched h .criterion ⟨form, fields, rfl⟩).readCriterion
    exact ⟨c.render, .criterion hread (form_of_readCriterion c hread)⟩
  · obtain ⟨g, hg, hcriteria⟩ := h.builder
    obtain ⟨text, htext⟩ := clauseText_ok hcriteria
    exact ⟨g.text, .group hg htext⟩
  · have hfields := (Value.Typed.matched h .subCommand ⟨form, fields, rfl⟩).fields.2
    obtain ⟨c, -, hread, -⟩ := Matched.readSubCommandFields hfields
    exact ⟨c.render, .subCommand hread (form_of_readSubCommandFields c hread)⟩
  · exact h.entry_rendered hentry

end Store

namespace Expression

open Building

/-- Building and writing never go wrong on well-typed parts. Either a check of a record complains for a
documented reason, or a well-typed value of the kind comes out. A value of a family that stands for a text
is then written by the renderer of that family, an argument of commands is read as one, and of a command
an entry is kept that is written too. -/
theorem typed_builds_rendered {s : Store} {slots : Slots} {kind : Kind} {e : Expression}
    (h : e.Typed s slots kind) :
    (∃ fault s', (e.build slots).run s = .error fault s' ∧ e.Raises slots fault) ∨
    ∃ v s', (e.build slots).run s = .ok v s' ∧ kind.Fits v ∧ s'.WellTyped v ∧
      (v.IsWritten → ∃ text, v.standsFor s'.texts = .ok text ∧ s'.Rendered v text) ∧
      (∀ k : Kind, k.isArgument = true → k.Fits v → ∃ a, v.readArgument = .ok a) ∧
      (Kind.command.Fits v → ∃ kept s'' text, (entry v).run s' = .ok kept s'' ∧ kept.IsEntry ∧
        kept.commandText s''.texts = .ok text ∧ s''.Rendered kept text) := by
  have hmakes := build_makes h s (.refl s)
  unfold Makes at hmakes
  cases hrun : (e.build slots).run s with
  | error fault s' =>
      simp only [hrun] at hmakes
      exact Or.inl ⟨fault, s', rfl, hmakes⟩
  | ok v s' =>
      simp only [hrun] at hmakes
      obtain ⟨-, hfits, htyped⟩ := hmakes
      refine Or.inr ⟨v, s', rfl, hfits, htyped, fun hv => ?_, fun k hk hkv => ?_, fun hv => ?_⟩
      · obtain ⟨text, hrendered⟩ := htyped.rendered hv
        exact ⟨text, hrendered.standsFor, hrendered⟩
      · obtain ⟨a, -, hread, -⟩ := (Value.Typed.matched htyped k hkv).readArgument hk
        exact ⟨a, hread⟩
      · obtain ⟨kept, s'', hkept, -, hkeptEntry, hkeptTyped⟩ := (entry_makes hv htyped).ok
        obtain ⟨text, hrendered⟩ := hkeptTyped.entry_rendered hkeptEntry
        exact ⟨kept, s'', text, hkept, hkeptEntry, hrendered.commandText hkeptEntry, hrendered⟩

/-- A rule for windows that match a criterion. -/
def windowRule (criterion : CriterionForm) (command : Expression) : Expression :=
  .record (.topLevel .forWindow)
    [("criteria", .group [.record (.criterion criterion) []] false), ("command", command)]

theorem windowRule_typed {s : Store} {slots : Slots} {criterion : CriterionForm} {command : Expression}
    (hcriterion : (Form.criterion criterion).signature.fields = [])
    (hcommand : command.Typed s slots .command) :
    (windowRule criterion command).Typed s slots .command := by
  refine .record (Or.inl (Or.inr (Or.inr (Or.inl ⟨_, _, rfl⟩)))) (by simp [Form.fieldNames,
    Form.signature, TopLevelForm.signature, needed]) (by simp [Form.signature, TopLevelForm.signature,
    needed]) ?_
  refine List.forall_mem_cons.mpr ⟨fun e he => ?_, List.forall_mem_cons.mpr ⟨fun e he => ?_,
    fun _ h => absurd h List.not_mem_nil⟩⟩
  · obtain rfl : e = .group [.record (.criterion criterion) []] false := by simpa [needed] using he
    refine .group ⟨_, rfl⟩ (List.cons_ne_nil _ _) (List.forall_mem_singleton.mpr ?_)
    exact .record ⟨_, _, rfl⟩ (fun _ hp => absurd hp List.not_mem_nil) (by simp [hcriterion])
      (by simp [hcriterion])
  · obtain rfl : e = command := by simpa [needed] using he
    exact hcommand

/-- A rule that sets up a rule that closes windows. -/
def nestedRule : Expression :=
  windowRule .floating (windowRule .tiling (.unit [(.command, .record (.subCommand .kill) [])] true))

theorem nestedRule_typed (s : Store) : nestedRule.Typed s [] .command := by
  refine windowRule_typed rfl (windowRule_typed rfl ?_)
  refine .unit (Or.inl (Or.inl ⟨_, rfl⟩)) (List.forall_mem_singleton.mpr ?_)
  exact .record ⟨_, _, rfl⟩ (by decide) (by decide) fun _ h => absurd h List.not_mem_nil

theorem nestedRule_rendered : nestedRule.Typed .empty [] .command ∧
    ∃ v s', (nestedRule.build []).run .empty = .ok v s' ∧
      v.standsFor s'.texts = .ok "for_window [floating] for_window [tiling] kill" ∧
      s'.Rendered v "for_window [floating] for_window [tiling] kill" := by
  have hbuilt : ∀ v s', (nestedRule.build []).run .empty = .ok v s' → v.IsEntry ∧
      v.standsFor s'.texts = .ok "for_window [floating] for_window [tiling] kill" := by
    rintro _ _ ⟨⟩
    exact ⟨Or.inr (Or.inr (Or.inl ⟨_, _, rfl⟩)), rfl⟩
  refine ⟨nestedRule_typed _, ?_⟩
  rcases typed_builds_rendered (nestedRule_typed .empty) with ⟨fault, s', hrun, -⟩ |
    ⟨v, s', hrun, -, -, hwritten, -⟩
  · cases hrun
  · obtain ⟨hentry, hstands⟩ := hbuilt v s' hrun
    obtain ⟨text, htext, hrendered⟩ := hwritten (Or.inr (Or.inr (Or.inr hentry)))
    obtain rfl := Except.ok.inj (htext.symm.trans hstands)
    exact ⟨v, s', hrun, htext, hrendered⟩

end Expression

end SwayControl
