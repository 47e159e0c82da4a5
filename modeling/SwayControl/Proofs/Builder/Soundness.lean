import SwayControl.Proofs.Builder.Collection
import SwayControl.Proofs.Builder.Separator

/-!
Steps of well-typed scripts are accepted. A step is well typed in a session if what it builds is, and if
the operation that it calls is one for the value of its slot. Such a step may fail, as a builder is frozen
or a check of a record complains, but no value is refused for its kind. The values that a step reads back
were put into builders before: the sub-commands of a unit can be written in every session, and the entries
of a batch in every session that accepted steps lead to.
-/

namespace SwayControl

/-! ### Faults that refuse no value -/

theorem Fault.Documented.ne_refused {fault : Fault} (h : fault.Documented) (refusal : Refusal) :
    fault ≠ .refused refusal := by
  rintro rfl
  exact h

theorem Expression.Raises.documented {slots : Slots} {fault : Fault} {e : Expression}
    (h : e.Raises slots fault) : fault.Documented := by
  induction h with
  | here _ _ hdocumented => exact hdocumented
  | field _ _ ih | item _ _ ih | criterion _ _ ih | part _ _ ih => exact ih

namespace Building

variable {α β : Type} {s s' : Store} {x : Building α} {f : α → Building β} {i : Nat} {value : Value}

/-- Whether an operation refuses no value. It may fail for another reason. -/
def Takes (x : Building α) (s : Store) : Prop :=
  Ends x s (fun _ _ => True) fun fault _ => ∀ refusal, fault ≠ .refused refusal

theorem Takes.of_ok {a : α} (hrun : x.run s = .ok a s') : Takes x s := by
  simp only [Takes, Ends, hrun]

theorem Takes.of_error {fault : Fault} (hrun : x.run s = .error fault s')
    (h : ∀ refusal, fault ≠ .refused refusal) : Takes x s := by
  simpa only [Takes, Ends, hrun] using h

theorem Takes.bind (hx : Takes x s) (hf : ∀ a s', x.run s = .ok a s' → Takes (f a) s') :
    Takes (x >>= f) s :=
  Ends.bind hx (fun a s' hrun _ => hf a s' hrun) fun _ _ _ hfault => hfault

theorem Takes.bind_pure {g : α → β} (hx : Takes x s) : Takes (x >>= fun a => pure (g a)) s :=
  hx.bind fun _ s' _ => .of_ok (EStateM.run_pure _ s')

theorem Takes.map {g : α → β} (hx : Takes x s) : Takes (g <$> x) s := by
  rw [map_eq_pure_bind]
  exact hx.bind_pure

theorem Makes.takes {raises : Fault → Prop} {post : α → Store → Prop} (hx : Makes raises x s post)
    (h : ∀ fault, raises fault → ∀ refusal, fault ≠ .refused refusal) : Takes x s :=
  Ends.imp hx (fun _ _ _ => trivial) fun fault _ => h fault

/-! ### Operations on builders -/

theorem addToGroup_takes (hgroup : s.Has (.group i)) (hvalue : value.TypedCriterion) :
    Takes (addToGroup i value) s := by
  have hg := List.getElem?_eq_getElem hgroup
  obtain ⟨criterion, hread⟩ := hvalue.read
  cases hfrozen : s.groups[i].frozen with
  | true => exact .of_error (run_addToGroup_frozen hg hfrozen value) fun _ h => by cases h
  | false => exact .of_ok (run_addToGroup_ok hg hfrozen hread)

/-- The clause of a unit is frozen if the unit is, and the sub-commands of a unit can be written. -/
theorem addCriterion_takes (hwf : s.WellFormed) (hunit : s.Has (.unit i))
    (hvalue : value.TypedCriterion) : Takes (addCriterion i value) s := by
  have hu := List.getElem?_eq_getElem hunit
  obtain ⟨criterion, hread⟩ := hvalue.read
  obtain ⟨written, hwritten⟩ := (hwf.units i _ hu).written
  cases hfrozen : s.units[i].frozen with
  | true => exact .of_error (run_addCriterion_frozen hu hfrozen value) fun _ h => by cases h
  | false =>
      cases hc : s.units[i].clause with
      | none => exact .of_ok (run_addCriterion_open hu hfrozen hc hread hwritten)
      | some c =>
          obtain ⟨g, hg, hflag⟩ := (hwf.units i _ hu).clause c hc
          exact .of_ok (run_addCriterion_extend hu hfrozen hc hg (hflag.trans hfrozen) hread hwritten)

theorem addCommand_takes (hunit : s.Has (.unit i)) (hvalue : value.TypedSubCommand) :
    Takes (addCommand i value) s := by
  have hu := List.getElem?_eq_getElem hunit
  obtain ⟨command, hread⟩ := hvalue.read
  cases hfrozen : s.units[i].frozen with
  | true => exact .of_error (run_addCommand_frozen hu hfrozen value) fun _ h => by cases h
  | false => exact .of_ok (run_addCommand_ok hu hfrozen hread)

theorem append_takes (hwf : s.WellFormed) (hbatch : s.Has (.batch i)) (hholds : s.Holds value)
    (hfits : Kind.command.Fits value) (htyped : s.WellTyped value) : Takes (append i value) s := by
  obtain ⟨kept, s', text, -, -, -, -, -, -, happend, -⟩ :=
    Session.append_lasting hwf (List.getElem?_eq_getElem hbatch) hholds hfits htyped
  exact .of_ok happend

theorem copyGroup_takes (hgroup : s.Has (.group i)) : Takes (copyGroup i) s :=
  .of_ok (run_copyGroup (List.getElem?_eq_getElem hgroup))

theorem freezeGroup_takes (hgroup : s.Has (.group i)) : Takes (freezeGroup i) s := by
  have hg := List.getElem?_eq_getElem hgroup
  cases hfrozen : s.groups[i].frozen with
  | true => exact .of_ok (run_freezeGroup_frozen hg hfrozen)
  | false => exact .of_ok (run_freezeGroup_copy hg hfrozen)

theorem copyUnit_takes (hwf : s.WellFormed) (hunit : s.Has (.unit i)) : Takes (copyUnit i) s := by
  have hu := List.getElem?_eq_getElem hunit
  cases hc : s.units[i].clause with
  | none => exact .of_ok (run_copyUnit_bare hu hc)
  | some c =>
      obtain ⟨g, hg, -⟩ := (hwf.units i _ hu).clause c hc
      exact .of_ok (run_copyUnit_clause hu hc hg)

theorem freezeUnit_takes (hwf : s.WellFormed) (hunit : s.Has (.unit i)) : Takes (freezeUnit i) s := by
  have hu := List.getElem?_eq_getElem hunit
  cases hfrozen : s.units[i].frozen with
  | true => exact .of_ok (run_freezeUnit_frozen hu hfrozen)
  | false =>
      cases hc : s.units[i].clause with
      | none => exact .of_ok (run_freezeUnit_bare hu hfrozen hc)
      | some c =>
          obtain ⟨g, hg, -⟩ := (hwf.units i _ hu).clause c hc
          exact .of_ok (run_freezeUnit_clause hu hfrozen hc hg)

/-- The sub-commands of a unit can be written in every well-formed store. -/
theorem writtenUnit_takes (hwf : s.WellFormed) (hunit : s.Has (.unit i)) : Takes (writtenUnit i) s := by
  have hu := List.getElem?_eq_getElem hunit
  obtain ⟨written, hwritten⟩ := (hwf.units i _ hu).written
  simp only [writtenUnit]
  exact .of_ok ((run_bind_ok (run_unit hu)).trans (run_ofReading_ok (unitText_of_written hwritten)))

/-- The entries of a batch can be written where batches are in step. -/
theorem writtenBatch_takes (hbatches : s.BatchesInStep) (hbatch : s.Has (.batch i)) :
    Takes (writtenBatch i) s := by
  have hb := List.getElem?_eq_getElem hbatch
  have hread : (batch i >>= fun b => ofReading (batchText s.texts b.commands)).run s =
      .ok s.batches[i].text s :=
    (run_bind_ok (run_batch hb)).trans (run_ofReading_ok (hbatches i _ hb).2)
  exact .of_ok hread

theorem checkSettled_takes (value : Value) : Takes (checkSettled value) s := by
  simp only [checkSettled]
  refine Takes.bind (.of_ok (EStateM.run_get s)) fun t _ _ => ?_
  split
  · exact .of_error rfl fun _ h => by cases h
  · exact .of_ok rfl

theorem countDistinct_takes (values : List Value) : Takes (countDistinct values) s := by
  have hloop (values : List Value) (t : Store) : Takes (values.forM checkSettled) t := by
    induction values generalizing t with
    | nil => exact .of_ok rfl
    | cons v rest ih => exact (checkSettled_takes v).bind fun _ t' _ => ih t'
  simp only [countDistinct]
  exact (hloop values s).bind fun _ t _ => .of_ok rfl

end Building

/-! ### Well-typed steps -/

namespace Expression

open Building

variable {s t t' : Store} {slots : Slots} {kind : Kind} {e : Expression} {v : Value}

theorem Typed.build_takes (h : e.Typed s slots kind) (hstays : s.StaysIn t) :
    Takes (e.build slots) t :=
  (build_makes h t hstays).takes fun _ hraises => hraises.documented.ne_refused

/-- What an expression of well-typed parts builds leaves all builders alone that were there before. -/
theorem Typed.built (h : e.Typed s slots kind) (hstays : s.StaysIn t) (hwf : t.WellFormed)
    (hslots : t.HoldsEach slots) (hrun : (e.build slots).run t = .ok v t') :
    t.Leads (fun _ => False) t' ∧ t'.Holds v ∧ kind.Fits v ∧ t'.WellTyped v := by
  have hruns : Runs (fun _ => False) False _ (e.build slots) t _ := e.build_runs slots t hwf hslots
  obtain ⟨-, hfits, htyped⟩ := (build_makes h t hstays).answered hrun
  obtain ⟨hleads, hholds⟩ := hruns.answered hrun
  exact ⟨hleads, hholds, hfits, htyped⟩

end Expression

/-- Whether a value is a batch. No field takes one, so there is no kind of it. -/
def Value.IsBatch (v : Value) : Prop := ∃ i, v = .builder (.batch i)

/-- Whether a value is a record with a field of a name. -/
def Value.HasField (v : Value) (name : String) : Prop :=
  ∃ form fields field, v = .record form fields ∧ (form.fieldNames.zip fields).lookup name = some field

/-- Whether a value is one that an operation is for. -/
def Operation.IsFor : Operation → Value → Prop
  | .add _, v => Kind.group.Fits v
  | .addCriterion _, v | .addCommand _, v => Kind.unit.Fits v
  | .append _, v => v.IsBatch
  | .copy, v | .freeze, v | .frozen, v => Kind.group.Fits v ∨ Kind.unit.Fits v
  | .criteria, v => Kind.group.Fits v ∨ Kind.unit.Fits v ∨ v.HasField "criteria"
  | .commands, v => Kind.unit.Fits v ∨ v.IsBatch ∨ v.HasField "commands"
  | .render, v | .entries, v => Kind.unit.Fits v ∨ v.IsBatch
  | .encode, v => ∃ ref, v = .builder ref
  | .text, v => (∃ ref, v = .builder ref) ∨ ∃ line, v = .raw line
  | .length, v => Kind.group.Fits v ∨ v.IsBatch ∨ (∃ items, v = .tuple items) ∨ ∃ t, v = .text t
  | .written, _ | .shown, _ | .truth, _ | .hash, _ => True

/-- The argument of an operation, and the kind that it is of. -/
def Operation.argument : Operation → Option (Kind × Expression)
  | .add criterion | .addCriterion criterion => some (.criterion, criterion)
  | .addCommand command => some (.subCommand, command)
  | .append command => some (.command, command)
  | _ => none


/-- Whether a path names fields that the values on it have, and takes items of tuples only. -/
inductive Store.Offers (s : Store) : Value → List PathStep → Prop
  | done {v} : Offers s v []
  | field {v w name path} (hfield : (Building.property v name).run s = .ok w s)
      (hrest : Offers s w path) : Offers s v (.field name :: path)
  | item {items index path} (hitems : ∀ v ∈ items, Offers s v path) :
      Offers s (.tuple items) (.item index :: path)

namespace Building

variable {s : Store} {slots : Slots} {value : Value} {op : Operation}

theorem property_takes {name : String} (h : value.HasField name) : Takes (property value name) s := by
  obtain ⟨form, fields, field, rfl, hfield⟩ := h
  have hproperty : property (.record form fields) name = pure field := by
    simp only [property, hfield]
  rw [hproperty]
  exact .of_ok rfl

theorem walk_takes {path : List PathStep} (h : s.Offers value path) : Takes (walk value path) s := by
  induction h with
  | done => exact .of_ok rfl
  | @field v w name path hfield _ ih =>
      have hwalk : walk v (.field name :: path) = property v name >>= fun w => walk w path := by
        cases v <;> rfl
      rw [hwalk]
      refine Takes.bind (.of_ok hfield) fun a t hrun => ?_
      cases hfield.symm.trans hrun
      exact ih
  | @item items index path _ ih =>
      simp only [walk, itemAt]
      generalize (if index < 0 then index + items.length else index) = position
      split
      · rename_i item hitem
        split at hitem
        · cases hitem
        · exact ih item (List.mem_of_getElem? hitem)
      · exact .of_error rfl fun _ h => by cases h

/-- An operation that builds its argument first, and takes it. -/
theorem argument_takes {kind : Kind} {e : Expression} (hwf : s.WellFormed) (hslots : s.HoldsEach slots)
    (h : e.Typed s slots kind) {f : Value → Building Unit} {answer : Answer}
    (hf : ∀ v t, s.Leads (fun _ => False) t → t.Holds v → kind.Fits v → t.WellTyped v →
      Takes (f v) t) : Takes (e.build slots >>= fun v => f v >>= fun _ => pure answer) s := by
  refine (h.build_takes (.refl s)).bind fun v t hrun => ?_
  obtain ⟨hleads, hholds, hfits, htyped⟩ := h.built (.refl s) hwf hslots hrun
  exact (hf v t hleads hholds hfits htyped).bind_pure

/-- An operation that is called on a value that it is for, with a well-typed argument if it has one. -/
theorem perform_takes (hwf : s.WellFormed) (hslots : s.HoldsEach slots) (hbatches : s.BatchesInStep)
    (hvalue : s.Holds value) (hfor : op.IsFor value)
    (hargument : ∀ kind e, op.argument = some (kind, e) → e.Typed s slots kind) :
    Takes (perform slots value op) s := by
  cases op with
  | add criterion =>
      obtain ⟨i, rfl⟩ := hfor
      simp only [perform]
      exact argument_takes hwf hslots (hargument _ _ rfl) fun v t hleads _ hfits htyped =>
        addToGroup_takes (hleads.grows.has hvalue)
          ⟨hfits, Value.Typed.mono (fun _ _ => trivial) v htyped⟩
  | addCriterion criterion =>
      obtain ⟨i, rfl⟩ := hfor
      simp only [perform]
      exact argument_takes hwf hslots (hargument _ _ rfl) fun v t hleads _ hfits htyped =>
        addCriterion_takes hleads.wellFormed (hleads.grows.has hvalue)
          ⟨hfits, Value.Typed.mono (fun _ _ => trivial) v htyped⟩
  | addCommand command =>
      obtain ⟨i, rfl⟩ := hfor
      simp only [perform]
      exact argument_takes hwf hslots (hargument _ _ rfl) fun v t hleads _ hfits htyped =>
        addCommand_takes (hleads.grows.has hvalue)
          ⟨hfits, Value.Typed.mono (fun _ _ => trivial) v htyped⟩
  | append command =>
      obtain ⟨i, rfl⟩ := hfor
      simp only [perform]
      exact argument_takes hwf hslots (hargument _ _ rfl) fun v t hleads hholds hfits htyped =>
        append_takes hleads.wellFormed (hleads.grows.has hvalue) hholds hfits htyped
  | copy =>
      rcases hfor with ⟨i, rfl⟩ | ⟨i, rfl⟩
      · exact (copyGroup_takes hvalue).bind_pure.map
      · exact (copyUnit_takes hwf hvalue).bind_pure.map
  | freeze =>
      rcases hfor with ⟨i, rfl⟩ | ⟨i, rfl⟩
      · exact (freezeGroup_takes hvalue).bind_pure.map
      · exact (freezeUnit_takes hwf hvalue).bind_pure.map
  | render =>
      rcases hfor with ⟨i, rfl⟩ | ⟨i, rfl⟩
      · exact (writtenUnit_takes hwf hvalue).map
      · exact (writtenBatch_takes hbatches hvalue).map
  | encode =>
      obtain ⟨ref, rfl⟩ := hfor
      exact .of_ok rfl
  | text =>
      rcases hfor with ⟨ref, rfl⟩ | ⟨line, rfl⟩
      · exact .of_ok rfl
      · exact .of_ok rfl
  | criteria =>
      rcases hfor with ⟨i, rfl⟩ | ⟨i, rfl⟩ | hfield
      · exact Takes.map (.bind_pure (.of_ok (run_group (List.getElem?_eq_getElem hvalue))))
      · exact Takes.map (.bind_pure (.of_ok (run_unit (List.getElem?_eq_getElem hvalue))))
      · exact (property_takes hfield).map
  | commands =>
      rcases hfor with ⟨i, rfl⟩ | ⟨i, rfl⟩ | hfield
      · exact Takes.map (.bind_pure (.of_ok (run_unit (List.getElem?_eq_getElem hvalue))))
      · exact Takes.map (.bind_pure (.of_ok (run_batch (List.getElem?_eq_getElem hvalue))))
      · exact (property_takes hfield).map
  | entries =>
      rcases hfor with ⟨i, rfl⟩ | ⟨i, rfl⟩
      · exact Takes.map (.bind_pure (.of_ok (run_unit (List.getElem?_eq_getElem hvalue))))
      · exact Takes.map (.bind_pure (.of_ok (run_batch (List.getElem?_eq_getElem hvalue))))
  | frozen =>
      rcases hfor with ⟨i, rfl⟩ | ⟨i, rfl⟩
      · exact Takes.map (.bind_pure (.of_ok (run_group (List.getElem?_eq_getElem hvalue))))
      · exact Takes.map (.bind_pure (.of_ok (run_unit (List.getElem?_eq_getElem hvalue))))
  | length =>
      rcases hfor with ⟨i, rfl⟩ | ⟨i, rfl⟩ | ⟨items, rfl⟩ | ⟨t, rfl⟩
      · exact .bind_pure (.bind_pure (.of_ok (run_group (List.getElem?_eq_getElem hvalue))))
      · exact .bind_pure (.bind_pure (.of_ok (run_batch (List.getElem?_eq_getElem hvalue))))
      · exact .of_ok rfl
      · exact .of_ok rfl
  | written => cases value <;> exact .of_ok rfl
  | shown => exact .of_ok rfl
  | truth =>
      cases value with
      | builder ref =>
          cases ref with
          | batch i => exact Takes.map (.bind_pure (.of_ok (run_batch (List.getElem?_eq_getElem hvalue))))
          | _ => exact .of_ok rfl
      | _ => exact .of_ok rfl
  | hash => exact (checkSettled_takes value).bind_pure

end Building

namespace Session

open Building

variable {σ : Session} {step : Step} {e : Expression} {t : Store}

/-- Whether an expression describes what a session may build: a well-typed value, a batch of well-typed
commands, or what a slot holds. -/
inductive Describes (σ : Session) : Expression → Prop
  | typed {kind e} (h : e.Typed σ.store σ.slots kind) : Describes σ e
  | batch {commands} (h : ∀ e ∈ commands, e.Typed σ.store σ.slots .command) :
      Describes σ (.batch commands)
  | slot (name : String) : Describes σ (.slot name)

/-- Whether a step is well typed in the session where it is run. -/
def Typed (σ : Session) : Step → Prop
  | .assign _ value => σ.Describes value
  | .coerce _ value => value.Typed σ.store σ.slots .command
  | .call on operation _ => operation.IsFor (σ.value on) ∧
    ∀ kind e, operation.argument = some (kind, e) → e.Typed σ.store σ.slots kind
  | .walk on _ path => σ.store.Offers (σ.value on) path
  | .compare a b => σ.Describes a ∧ σ.Describes b
  | .distinct values => ∀ e ∈ values, σ.Describes e
  | .observe _ => True

theorem buildAll_commands {commands : List Expression}
    (h : ∀ e ∈ commands, e.Typed σ.store σ.slots .command) (ht : σ.store.StaysIn t) :
    Makes (fun fault => fault.Documented) (Expression.buildAll σ.slots commands) t fun vs t' =>
      vs.length = commands.length ∧ ∀ v ∈ vs, Expression.Good .command v t' :=
  Expression.buildAll_makes (Expression.Good .command) (fun _ _ _ => Expression.Good.stays)
    (fun e he t' ht' => (Expression.build_makes (h e he) t' ht').mono fun _ hraises => hraises.documented) ht

/-- What a session may build refuses no value, also behind other things that were built. -/
theorem Describes.build_takes (h : σ.Describes e) (hσ : σ.WellFormed)
    (ht : σ.store.Leads (fun _ => False) t) : Takes (e.build σ.slots) t := by
  cases h with
  | typed h => exact h.build_takes ht.staysIn
  | slot name => exact .of_ok rfl
  | @batch commands h =>
      have hmakes := buildAll_commands h ht.staysIn
      have hruns : Runs (fun _ => False) False _ (Expression.buildAll σ.slots commands) t _ :=
        Expression.buildAll_runs σ.slots commands t ht.wellFormed (ht.grows.holdsEach hσ.slots)
      simp only [Expression.build]
      refine (hmakes.takes fun _ h => h.ne_refused).bind fun vs t' hrun => ?_
      obtain ⟨-, -, hgood⟩ := hmakes.answered hrun
      obtain ⟨hleads, hholds⟩ := hruns.answered hrun
      obtain ⟨_, i, s', hbatch, -⟩ := batchOf_collects hleads.wellFormed fun v hv =>
        ⟨Store.holdsAll_iff.mp hholds v hv, hgood v hv⟩
      exact Takes.bind_pure (.of_ok hbatch)

theorem buildAll_takes {values : List Expression} (h : ∀ e ∈ values, σ.Describes e) (hσ : σ.WellFormed)
    (ht : σ.store.Leads (fun _ => False) t) : Takes (Expression.buildAll σ.slots values) t := by
  induction values generalizing t with
  | nil => exact .of_ok rfl
  | cons e rest ih =>
      obtain ⟨he, hrest⟩ := List.forall_mem_cons.mp h
      simp only [Expression.buildAll]
      refine (he.build_takes hσ ht).bind fun v t' hrun => ?_
      have hruns : Runs (fun _ => False) False _ (e.build σ.slots) t _ :=
        e.build_runs σ.slots t ht.wellFormed (ht.grows.holdsEach hσ.slots)
      exact (ih hrest (ht.trans (hruns.answered hrun).1)).bind_pure

/-- A well-typed step refuses no value. -/
theorem action_takes (hσ : σ.WellFormed) (hbatches : σ.store.BatchesInStep) (h : σ.Typed step) :
    Takes (σ.action step) σ.store := by
  have hhere : σ.store.Leads (fun _ => False) σ.store := hσ.store.leads
  cases step with
  | assign into value => exact (Describes.build_takes h hσ hhere).map
  | coerce into value =>
      refine (Expression.Typed.build_takes h (.refl _)).bind fun v t hrun => ?_
      obtain ⟨-, -, hfits, htyped⟩ := Expression.Typed.built h (.refl _) hσ.store hσ.slots hrun
      have hmakes : Makes (fun _ => False) (entry v) t _ := entry_makes hfits htyped
      exact (hmakes.takes fun _ => False.elim).bind_pure
  | call on operation into =>
      exact perform_takes hσ.store hσ.slots hbatches (hσ.holds_value on) h.1 h.2
  | walk on into path => exact (walk_takes h).map
  | compare a b =>
      refine (h.1.build_takes hσ hhere).bind fun v t hrun => ?_
      have hruns : Runs (fun _ => False) False _ (a.build σ.slots) σ.store _ :=
        a.build_runs σ.slots σ.store hσ.store hσ.slots
      refine (h.2.build_takes hσ (hruns.answered hrun).1).bind fun w t' _ => ?_
      exact .of_ok rfl
  | distinct values =>
      simp only [action, mapM_build]
      exact (buildAll_takes h hσ hhere).bind fun vs t _ => (countDistinct_takes vs).bind_pure
  | observe on => exact .of_ok rfl

theorem accepts_of_typed (hσ : σ.WellFormed) (hbatches : σ.store.BatchesInStep) (h : σ.Typed step) :
    σ.Accepts step := by
  have htakes := action_takes hσ hbatches h
  intro refusal hrefused
  unfold Takes Ends at htakes
  cases hrun : (σ.action step).run σ.store with
  | ok answer s =>
      rw [(run_of_ok hrun).1] at hrefused
      cases hrefused
  | error fault s =>
      simp only [hrun] at htakes
      rw [run_of_error hrun] at hrefused
      exact htakes refusal (Except.error.inj hrefused)

/-- An accepted step keeps batches in step, so the next one may read them. -/
theorem along_accepts_of_typed (hσ : σ.WellFormed) (hbatches : σ.store.BatchesInStep) {script : List Step}
    (h : Along Typed σ script) : Along Accepts σ script := by
  induction script generalizing σ with
  | nil => trivial
  | cons step rest ih =>
      have haccepts := accepts_of_typed hσ hbatches h.1
      have hevolves := run_evolves hσ haccepts
      exact ⟨haccepts, ih (run_wellFormed hσ step)
        (hevolves.invariant (fun _ _ hchange hs => hchange.batchesInStep hs) hbatches) h.2⟩

/-- Every step of a well-typed script is accepted, so its groups and its batches hold the texts of what
was put into them. -/
theorem typed_script_accepted {script : List Step} (h : Along Typed start script) :
    Along Accepts start script ∧ (start.after script).store.GroupsInStep ∧
      (start.after script).store.BatchesInStep := by
  have haccepts := along_accepts_of_typed wellFormed_start Store.batchesInStep_empty h
  exact ⟨haccepts, after_groupsInStep haccepts, after_batchesInStep haccepts⟩

end Session

end SwayControl
