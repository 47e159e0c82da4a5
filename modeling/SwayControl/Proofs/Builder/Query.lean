import SwayControl.Builder.Script
import SwayControl.Proofs.Builder.Evaluation

/-!
Queries. Looking at a value changes no builder, whether the query answers or fails, and what it answers
is held by the store.
-/

namespace SwayControl

/-- A property of values that goes over to what they hold: to the fields of a record, to the items of a
tuple, and to what a group, a unit or a batch shows of itself. -/
structure Store.Inherits (s : Store) (good : Value → Prop) : Prop where
  absent : good .absent
  flag : ∀ on, good (.flag on)
  text : ∀ t, good (.text t)
  field : ∀ {form fields}, good (.record form fields) → ∀ v ∈ fields, good v
  item : ∀ {items}, good (.tuple items) → ∀ v ∈ items, good v
  criteria : ∀ {i g}, good (.builder (.group i)) → s.groups[i]? = some g → good (.tuple g.criteria)
  clause : ∀ {i u c}, good (.builder (.unit i)) → s.units[i]? = some u → u.clause = some c →
    good (.builder (.group c))
  commands : ∀ {i u}, good (.builder (.unit i)) → s.units[i]? = some u → good (.tuple u.commands)
  entries : ∀ {i b}, good (.builder (.batch i)) → s.batches[i]? = some b → good (.tuple b.commands)

/-- What a value of the store holds is held by the store. -/
theorem Store.WellFormed.inherits {s : Store} (hwf : s.WellFormed) : s.Inherits s.Holds where
  absent := trivial
  flag _ := trivial
  text _ := trivial
  field h := Store.holdsAll_iff.mp h.fields
  item h := Store.holdsAll_iff.mp (by simpa only [Store.Holds] using h)
  criteria _ hg := by simpa only [Store.Holds] using (hwf.groups _ _ hg).held
  clause _ hu hc := hwf.has_clause hu hc
  commands _ hu := by simpa only [Store.Holds] using (hwf.units _ _ hu).held
  entries _ hb := by simpa only [Store.Holds] using (hwf.batches _ _ hb).held

namespace Building

variable {α β : Type} {target : Ref → Prop} {direct : Prop} {s : Store} {i : Nat} {value : Value}
  {x : Building α} {f : α → Building β} {post : α → Prop} {post' : β → Prop}

/-- An operation that leaves the store as it is, and what holds of its answer. -/
def Reads (x : Building α) (s : Store) (post : α → Prop) : Prop :=
  match x.run s with
  | .ok a s' => s' = s ∧ post a
  | .error _ s' => s' = s

theorem Reads.pure {a : α} (h : post a) : Reads (pure a) s post := ⟨rfl, h⟩

theorem reads_throw (fault : Fault) : Reads (throw fault : Building α) s post := rfl

theorem reads_refuse (value : Value) : Reads (refuse value : Building α) s post := rfl

theorem reads_get : Reads get s fun t => t = s := ⟨rfl, rfl⟩

theorem reads_ofReading (reading : Reading α) : Reads (ofReading reading) s fun _ => True := by
  cases reading with
  | ok a => exact ⟨rfl, trivial⟩
  | error refusal => rfl

theorem Reads.bind (hx : Reads x s post) (hf : ∀ a, post a → Reads (f a) s post') :
    Reads (x >>= f) s post' := by
  refine Ends.bind hx ?_ fun _ _ _ hsame => hsame
  rintro a s' - ⟨rfl, ha⟩
  exact hf a ha

/-- A query keeps everything. -/
theorem Reads.runs (hx : Reads x s post) (hwf : s.WellFormed) :
    Runs target direct [] x s fun a s' => s' = s ∧ post a := by
  apply Ends.imp hx
  · rintro a s' ⟨rfl, ha⟩
    exact ⟨hwf.leads, fun _ hinStep => Store.Keeps.refl hinStep, rfl, ha⟩
  · rintro fault s' rfl
    exact ⟨hwf.leads, fun _ hinStep => Store.Keeps.refl hinStep⟩

theorem reads_group : Reads (group i) s fun g => s.groups[i]? = some g := by
  cases h : s.groups[i]? with
  | none => simp only [Reads, run_group_none h]
  | some g => simp only [Reads, run_group h, and_self]

theorem reads_unit : Reads (unit i) s fun u => s.units[i]? = some u := by
  cases h : s.units[i]? with
  | none => simp only [Reads, run_unit_none h]
  | some u => simp only [Reads, run_unit h, and_self]

theorem reads_batch : Reads (batch i) s fun b => s.batches[i]? = some b := by
  cases h : s.batches[i]? with
  | none => simp only [Reads, run_batch_none h]
  | some b => simp only [Reads, run_batch h, and_self]

section

variable {good : Value → Prop} (h : s.Inherits good)
include h

theorem reads_textOf (hvalue : good value) : Reads (textOf value) s good := by
  unfold textOf
  split
  · exact reads_get.bind fun _ _ => Reads.pure (h.text _)
  · exact Reads.pure (h.field hvalue _ List.mem_cons_self)
  · exact reads_refuse _

theorem reads_criteriaOf (hvalue : good value) : Reads (criteriaOf value) s good := by
  unfold criteriaOf
  split
  · exact reads_group.bind fun g hg => Reads.pure (h.criteria hvalue hg)
  · refine reads_unit.bind fun u hu => Reads.pure ?_
    cases hc : u.clause with
    | none => exact h.absent
    | some c => exact h.clause hvalue hu hc
  · exact reads_refuse _

theorem reads_commandsOf (hvalue : good value) : Reads (commandsOf value) s good := by
  unfold commandsOf
  split
  · exact reads_unit.bind fun u hu => Reads.pure (h.commands hvalue hu)
  · exact reads_batch.bind fun b hb => Reads.pure (h.entries hvalue hb)
  · exact reads_refuse _

end

theorem reads_frozenOf : Reads (frozenOf value) s fun _ => True := by
  unfold frozenOf
  split
  · exact reads_group.bind fun _ _ => Reads.pure trivial
  · exact reads_unit.bind fun _ _ => Reads.pure trivial
  · exact reads_refuse _

theorem reads_lengthOf : Reads (lengthOf value) s fun _ => True := by
  unfold lengthOf
  split
  · exact reads_group.bind fun _ _ => Reads.pure trivial
  · exact reads_batch.bind fun _ _ => Reads.pure trivial
  · exact Reads.pure trivial
  · exact Reads.pure trivial
  · exact reads_refuse _

theorem reads_truthOf : Reads (truthOf value) s fun _ => True := by
  unfold truthOf
  split
  · exact reads_batch.bind fun _ _ => Reads.pure trivial
  all_goals exact Reads.pure trivial

theorem reads_writtenOf : Reads (writtenOf value) s fun _ => True := by
  unfold writtenOf
  split
  · exact Reads.pure trivial
  · exact Reads.pure trivial
  · exact reads_get.bind fun _ _ => Reads.pure trivial
  · exact reads_get.bind fun _ _ => Reads.pure trivial

theorem reads_writtenBuilder : Reads (writtenBuilder value) s fun _ => True := by
  unfold writtenBuilder
  split
  · exact reads_unit.bind fun _ _ => reads_get.bind fun _ _ => reads_ofReading _
  · exact reads_get.bind fun _ _ => reads_batch.bind fun _ _ => reads_ofReading _
  · exact reads_refuse _

section

variable {good : Value → Prop} (h : s.Inherits good)
include h

theorem reads_itemAt {items : List Value} (hitems : good (.tuple items)) (index : Int) :
    Reads (itemAt items index) s good := by
  simp only [itemAt]
  generalize (if index < 0 then index + items.length else index) = position
  split
  · rename_i item hitem
    split at hitem
    · cases hitem
    · exact Reads.pure (h.item hitems item (List.mem_of_getElem? hitem))
  · exact reads_throw _

/-- A property of a record is one of its fields. -/
theorem reads_property (hvalue : good value) (name : String) : Reads (property value name) s good := by
  unfold property
  split
  · rename_i form fields
    split
    · rename_i field hfield
      apply Reads.pure
      obtain ⟨before, after, hzip, _⟩ := List.lookup_eq_some_iff.mp hfield
      have hmem : (name, field) ∈ form.fieldNames.zip fields := by simp [hzip]
      exact h.field hvalue field (List.of_mem_zip hmem).2
    · exact reads_refuse _
  · exact reads_textOf h hvalue
  · exact reads_criteriaOf h hvalue
  · exact reads_commandsOf h hvalue
  · exact reads_frozenOf.bind fun _ _ => Reads.pure (h.flag _)
  · exact reads_refuse _

/-- What goes over to what values hold goes over to whatever a path leads to. -/
theorem reads_walk : ∀ (path : List PathStep) (value : Value), good value →
    Reads (walk value path) s good
  | [], value, hvalue => by
      simp only [walk]
      exact Reads.pure hvalue
  | .field name :: path, value, hvalue => by
      have hwalk : walk value (.field name :: path) =
          property value name >>= fun v => walk v path := by cases value <;> rfl
      rw [hwalk]
      exact (reads_property h hvalue name).bind fun v hv => reads_walk path v hv
  | .item index :: path, value, hvalue => by
      cases value with
      | tuple items =>
          simp only [walk]
          exact (reads_itemAt h hvalue index).bind fun v hv => reads_walk path v hv
      | _ => exact reads_refuse _

end

theorem reads_checkSettled : Reads (checkSettled value) s fun _ => True := by
  unfold checkSettled
  refine reads_get.bind fun _ _ => ?_
  split
  · exact reads_throw _
  · exact Reads.pure trivial

theorem reads_countDistinct (values : List Value) : Reads (countDistinct values) s fun _ => True := by
  have hloop (values : List Value) : Reads (values.forM checkSettled) s fun _ => True := by
    induction values with
    | nil => exact Reads.pure trivial
    | cons v rest ih => exact reads_checkSettled.bind fun _ _ => ih
  exact (hloop values).bind fun _ _ => reads_get.bind fun _ _ => Reads.pure trivial

end Building

end SwayControl
