import SwayControl.Proofs.Builder.Citation
import SwayControl.Proofs.Builder.Growth

/-!
The invariant of the store. Every value it keeps, and every value a script holds, names only builders
that the store has, and the bindings and rules among them cite only frozen ones. A clause has the frozen
flag of its unit and belongs to no other unit; the sub-commands of a unit can be written; the entries of
a batch cite only frozen units. Nothing is said about the texts here: this much holds in every state,
also after a step that fails.
-/

namespace SwayControl

mutual

/-- Whether a value names only builders of the store, and its bindings and rules only frozen ones. -/
def Store.Holds (s : Store) : Value → Prop
  | .builder ref => s.Has ref
  | .tuple items => s.HoldsAll items
  | .record (.topLevel form) fields =>
    s.HoldsAll fields ∧ ∀ ref ∈ (Value.record (.topLevel form) fields).cited, s.Frozen ref
  | .record _ fields => s.HoldsAll fields
  | _ => True

/-- Whether each of a list of values names only builders of the store. -/
def Store.HoldsAll (s : Store) : List Value → Prop
  | [] => True
  | value :: rest => s.Holds value ∧ s.HoldsAll rest

end

namespace Store

variable {s s' : Store}

theorem holdsAll_iff {values : List Value} : s.HoldsAll values ↔ ∀ v ∈ values, s.Holds v := by
  induction values with
  | nil => simp [HoldsAll]
  | cons v rest ih => simp [HoldsAll, ih]

theorem HoldsAll.concat {values : List Value} {v : Value} (h : s.HoldsAll values)
    (hv : s.Holds v) : s.HoldsAll (values ++ [v]) := by
  rw [holdsAll_iff] at h ⊢
  intro w hw
  rcases List.mem_append.mp hw with hw | hw
  · exact h w hw
  · exact List.mem_singleton.mp hw ▸ hv

/-- The fields of a record that the store holds are held one by one. -/
theorem Holds.fields {form : Form} {fields : List Value} (h : s.Holds (.record form fields)) :
    s.HoldsAll fields := by
  cases form with
  | topLevel form =>
      simp only [Holds] at h
      exact h.1
  | _ => simpa only [Holds] using h

/-- The bindings and rules that the store holds cite frozen builders only. -/
theorem Holds.cited {form : Form} {fields : List Value} (h : s.Holds (.record form fields)) :
    ∀ ref ∈ (Value.record form fields).cited, s.Frozen ref := by
  cases form with
  | topLevel form =>
      simp only [Holds] at h
      exact h.2
  | _ => simp [Value.cited]

theorem holds_record {form : Form} {fields : List Value} (hfields : s.HoldsAll fields)
    (hcited : ∀ ref ∈ (Value.record form fields).cited, s.Frozen ref) :
    s.Holds (.record form fields) := by
  cases form with
  | topLevel form =>
      simp only [Holds]
      exact ⟨hfields, hcited⟩
  | _ => simpa only [Holds] using hfields

mutual

/-- A value that the store holds is held by every store it grows into. -/
theorem Grows.holds (h : s.Grows s') : ∀ value : Value, s.Holds value → s'.Holds value
  | .builder ref, hvalue => by
      simp only [Holds] at hvalue ⊢
      exact h.has hvalue
  | .tuple items, hvalue => by
      simp only [Holds] at hvalue ⊢
      exact h.holdsAll items hvalue
  | .record _ fields, hvalue =>
      holds_record (h.holdsAll fields hvalue.fields) fun ref href => h.frozen (hvalue.cited ref href)
  | .absent, _ => trivial
  | .flag _, _ => trivial
  | .int _, _ => trivial
  | .real _, _ => trivial
  | .text _, _ => trivial
  | .keyword _, _ => trivial

theorem Grows.holdsAll (h : s.Grows s') :
    ∀ values : List Value, s.HoldsAll values → s'.HoldsAll values
  | [], _ => trivial
  | value :: rest, hvalues => ⟨h.holds value hvalues.1, h.holdsAll rest hvalues.2⟩

end

/-- The text of a command that cites frozen builders only is settled: it is the same in every store that
the store grows into. -/
theorem Grows.commandText_eq (h : s.Grows s') {value : Value}
    (hcited : ∀ ref ∈ value.cited, s.Frozen ref) :
    value.commandText s'.texts = value.commandText s.texts :=
  Value.commandText_congr value fun ref href => (h.same_of_frozen (hcited ref href)).texts_eq

/-- What holds of a group in every state. -/
structure SoundGroup (s : Store) (g : CriteriaGroup) : Prop where
  nonempty : g.criteria ≠ []
  held : s.HoldsAll g.criteria

/-- What holds of a unit in every state. -/
structure SoundUnit (s : Store) (u : TargetedUnit) : Prop where
  held : s.HoldsAll u.commands
  written : ∃ texts, (u.commands.mapM fun command => SubCommand.render <$> command.readSubCommand) =
    Except.ok texts
  clause : ∀ c, u.clause = some c → ∃ g, s.groups[c]? = some g ∧ g.frozen = u.frozen

/-- What holds of a batch in every state. -/
structure SoundBatch (s : Store) (b : Batch) : Prop where
  held : s.HoldsAll b.commands
  cited : ∀ entry ∈ b.commands, ∀ ref ∈ entry.cited, s.Frozen ref

theorem Grows.soundGroup (h : s.Grows s') {g : CriteriaGroup} (hg : s.SoundGroup g) :
    s'.SoundGroup g where
  nonempty := hg.nonempty
  held := h.holdsAll _ hg.held

theorem Grows.soundUnit (h : s.Grows s') {u : TargetedUnit} (hu : s.SoundUnit u) :
    s'.SoundUnit u where
  held := h.holdsAll _ hu.held
  written := hu.written
  clause c hc := by
    obtain ⟨g, hg, hflag⟩ := hu.clause c hc
    obtain ⟨g', hg', hgg⟩ := h.groups c g hg
    exact ⟨g', hg', hgg.frozen.trans hflag⟩

theorem Grows.soundBatch (h : s.Grows s') {b : Batch} (hb : s.SoundBatch b) :
    s'.SoundBatch b where
  held := h.holdsAll _ hb.held
  cited entry hentry ref href := h.frozen (hb.cited entry hentry ref href)

/-- The invariant of the store: every builder is sound, and no two units share a clause. -/
structure WellFormed (s : Store) : Prop where
  groups : ∀ (i : Nat) g, s.groups[i]? = some g → s.SoundGroup g
  units : ∀ (i : Nat) u, s.units[i]? = some u → s.SoundUnit u
  batches : ∀ (i : Nat) b, s.batches[i]? = some b → s.SoundBatch b
  separate : ∀ (i j : Nat) u v c, s.units[i]? = some u → s.units[j]? = some v →
    u.clause = some c → v.clause = some c → i = j

theorem wellFormed_empty : Store.empty.WellFormed where
  groups i g h := by simp [empty] at h
  units i u h := by simp [empty] at h
  batches i b h := by simp [empty] at h
  separate i j u v c h := by simp [empty] at h

/-- The clause of a unit is in the store. -/
theorem WellFormed.has_clause (h : s.WellFormed) {i c : Nat} {u : TargetedUnit}
    (hu : s.units[i]? = some u) (hc : u.clause = some c) : s.Has (.group c) := by
  obtain ⟨g, hg, _⟩ := (h.units i u hu).clause c hc
  exact has_group hg

/-- A group that is not in the store yet is the clause of no unit. -/
theorem WellFormed.loose_of_fresh (h : s.WellFormed) {c : Nat} (hc : ¬ s.Has (.group c)) :
    s.Loose c :=
  fun _ _ hu hclause => hc (h.has_clause hu hclause)

/-- A store that another grew into is well formed if its new and changed builders are sound and its
clauses separate. -/
theorem WellFormed.grown (h : s.WellFormed) (hgrows : s.Grows s')
    (hgroups : ∀ (i : Nat) g, s'.groups[i]? = some g → s.groups[i]? = some g ∨ s'.SoundGroup g)
    (hunits : ∀ (i : Nat) u, s'.units[i]? = some u → s.units[i]? = some u ∨ s'.SoundUnit u)
    (hbatches : ∀ (i : Nat) b, s'.batches[i]? = some b → s.batches[i]? = some b ∨ s'.SoundBatch b)
    (hseparate : ∀ (i j : Nat) u v c, s'.units[i]? = some u → s'.units[j]? = some v →
      u.clause = some c → v.clause = some c → i = j) : s'.WellFormed where
  groups i g hg := by
    rcases hgroups i g hg with hold | hnew
    · exact hgrows.soundGroup (h.groups i g hold)
    · exact hnew
  units i u hu := by
    rcases hunits i u hu with hold | hnew
    · exact hgrows.soundUnit (h.units i u hold)
    · exact hnew
  batches i b hb := by
    rcases hbatches i b hb with hold | hnew
    · exact hgrows.soundBatch (h.batches i b hold)
    · exact hnew
  separate := hseparate

end Store

end SwayControl
