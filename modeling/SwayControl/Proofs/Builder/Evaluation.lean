import SwayControl.Proofs.Builder.Rule

/-!
Evaluating expressions. Whatever an expression describes, building it touches no builder that is there
already, and what is built is held by the store. The history of an expression lists, along its
evaluation, which commands are put into the batches that it makes.
-/

namespace SwayControl

namespace Expression

open Building

mutual

/-- Which commands are put into batches while an expression is evaluated. -/
def history (slots : Slots) : Expression → Store → History
  | .literal _, _ => []
  | .tuple items, s => historyAll slots items s
  | .record _ given, s => historyFields slots given s
  | .group criteria _, s => historyAll slots criteria s
  | .unit parts _, s => historyParts slots parts s
  | .batch commands, s =>
    historyAll slots commands s ++ following (buildAll slots commands) s batched
  | .slot _, _ => []

/-- Which commands are put into batches while expressions are evaluated. -/
def historyAll (slots : Slots) : List Expression → Store → History
  | [], _ => []
  | item :: rest, s =>
    history slots item s ++ following (build slots item) s fun _ s' => historyAll slots rest s'

/-- Which commands are put into batches while named expressions are evaluated. -/
def historyFields (slots : Slots) : List (String × Expression) → Store → History
  | [], _ => []
  | (_, item) :: rest, s =>
    history slots item s ++ following (build slots item) s fun _ s' => historyFields slots rest s'

/-- Which commands are put into batches while the parts of a unit are evaluated. -/
def historyParts (slots : Slots) : List (UnitPart × Expression) → Store → History
  | [], _ => []
  | (_, item) :: rest, s =>
    history slots item s ++ following (build slots item) s fun _ s' => historyParts slots rest s'

end

end Expression

namespace Store

variable {s s' : Store}

/-- Whether each of a list of values that come with a name or a role is held by the store. -/
def HoldsEach {κ : Type} (s : Store) (values : List (κ × Value)) : Prop :=
  ∀ pair ∈ values, s.Holds pair.2

theorem Grows.holdsEach {κ : Type} (h : s.Grows s') {values : List (κ × Value)}
    (hvalues : s.HoldsEach values) : s'.HoldsEach values :=
  fun pair hpair => h.holds pair.2 (hvalues pair hpair)

theorem HoldsEach.lookup {values : List (String × Value)} (h : s.HoldsEach values) {name : String}
    {value : Value} (hvalue : values.lookup name = some value) : s.Holds value := by
  obtain ⟨before, after, rfl, _⟩ := List.lookup_eq_some_iff.mp hvalue
  exact h (name, value) (by simp)

/-- Looking a name up among held values gives a held value, also where the name is not there. -/
theorem HoldsEach.lookup_getD {values : List (String × Value)} (h : s.HoldsEach values)
    {name : String} {fallback : Value} (hfallback : s.Holds fallback) :
    s.Holds ((values.lookup name).getD fallback) := by
  cases hvalue : values.lookup name with
  | none => exact hfallback
  | some value => exact h.lookup hvalue

/-- The values that fields take when they are left out name no builder. -/
theorem holdsAll_fallbacks (s : Store) (form : Form) :
    s.HoldsAll (form.signature.fields.map fun field => field.fallback.getD .absent) := by
  cases form with
  | argument f =>
      cases f <;> simp [Form.signature, ArgumentForm.signature, needed, optional, HoldsAll, Holds]
  | criterion f =>
      cases f <;> simp [Form.signature, CriterionForm.signature, needed, HoldsAll, Holds]
  | font f =>
      cases f <;> simp [Form.signature, FontForm.signature, needed, optional, noFontOptions,
        HoldsAll, Holds, List.replicate]
  | window f =>
      cases f <;> simp [Form.signature, WindowForm.signature, needed, optional, HoldsAll, Holds]
  | subCommand f =>
      cases f <;> simp [Form.signature, SubCommandForm.signature, needed, optional, Value.word,
        HoldsAll, Holds]
  | binding f =>
      cases f <;> simp [Form.signature, BindingForm.signature, needed, optional, noModifiers,
        Value.word, HoldsAll, Holds, List.replicate]
  | topLevel f =>
      cases f <;> simp [Form.signature, TopLevelForm.signature, needed, optional, noBindFlags,
        noSwitchFlags, Value.word, HoldsAll, Holds, List.replicate]
  | configLine f =>
      cases f <;> simp [Form.signature, ConfigLineForm.signature, needed, optional, HoldsAll, Holds]
  | raw => simp [Form.signature, needed, HoldsAll, Holds]

theorem holdsAll_complete (form : Form) {given : List (String × Value)} (h : s.HoldsEach given) :
    s.HoldsAll (form.complete given) := by
  have hfallbacks := holdsAll_iff.mp (s.holdsAll_fallbacks form)
  rw [holdsAll_iff]
  intro v hv
  obtain ⟨field, hfield, rfl⟩ := List.mem_map.mp hv
  exact h.lookup_getD (hfallbacks _ (List.mem_map.mpr ⟨field, hfield, rfl⟩))

end Store

theorem Form.length_complete (form : Form) (given : List (String × Value)) :
    (form.complete given).length = form.signature.fields.length := by
  simp only [Form.complete, List.length_map]

namespace Expression

open Building

variable {target : Ref → Prop}

mutual

/-- Building what an expression describes leaves every builder alone that is there already. -/
theorem build_runs (slots : Slots) : ∀ (e : Expression) (s : Store), s.WellFormed →
    s.HoldsEach slots → Runs target False (e.history slots s) (e.build slots) s
      fun v s' => s'.Holds v
  | .literal l, s, hwf, _ => by
      apply Runs.pure hwf
      cases l <;> trivial
  | .tuple items, s, hwf, hslots => by
      simp only [build, history]
      apply Runs.bind_quiet (buildAll_runs slots items s hwf hslots)
      intro values s' _ hleads hvalues
      exact Runs.pure hleads.wellFormed (by simpa only [Store.Holds] using hvalues)
  | .record form given, s, hwf, hslots => by
      simp only [build, history]
      apply Runs.bind_quiet (buildFields_runs slots given s hwf hslots)
      intro fields s' _ hleads hfields
      exact record_holds_runs hleads.wellFormed (Store.holdsAll_complete form hfields)
        (form.length_complete fields)
  | .group criteria frozen, s, hwf, hslots => by
      simp only [build, history]
      apply Runs.bind_quiet (buildAll_runs slots criteria s hwf hslots)
      intro values s' _ hleads hvalues
      exact buildGroup_runs hleads.wellFormed hvalues frozen
  | .unit parts frozen, s, hwf, hslots => by
      simp only [build, history]
      apply Runs.bind_quiet (buildParts_runs slots parts s hwf hslots)
      intro values s' _ hleads hvalues
      exact buildUnit_runs hleads.wellFormed hvalues frozen
  | .batch commands, s, hwf, hslots => by
      simp only [build, history]
      apply Runs.bind (buildAll_runs slots commands s hwf hslots)
      intro values s' _ hleads hvalues
      exact buildBatch_runs hleads.wellFormed hvalues
  | .slot name, s, hwf, hslots => by
      simp only [build, history]
      exact Runs.pure hwf (hslots.lookup_getD trivial)

theorem buildAll_runs (slots : Slots) : ∀ (items : List Expression) (s : Store), s.WellFormed →
    s.HoldsEach slots → Runs target False (historyAll slots items s) (buildAll slots items) s
      fun values s' => s'.HoldsAll values
  | [], s, hwf, _ => by
      simp only [buildAll, historyAll]
      exact Runs.pure hwf trivial
  | item :: rest, s, hwf, hslots => by
      simp only [buildAll, historyAll]
      apply Runs.bind (build_runs slots item s hwf hslots)
      intro v s' _ hleads hv
      refine Runs.bind_quiet (buildAll_runs slots rest s' hleads.wellFormed
        (hleads.grows.holdsEach hslots)) ?_
      intro values s'' _ hleads' hvalues
      exact Runs.pure hleads'.wellFormed ⟨hleads'.grows.holds v hv, hvalues⟩

theorem buildFields_runs (slots : Slots) : ∀ (given : List (String × Expression)) (s : Store),
    s.WellFormed → s.HoldsEach slots →
      Runs target False (historyFields slots given s) (buildFields slots given) s
        fun fields s' => s'.HoldsEach fields
  | [], s, hwf, _ => by
      simp only [buildFields, historyFields]
      exact Runs.pure hwf fun _ hpair => by cases hpair
  | (name, item) :: rest, s, hwf, hslots => by
      simp only [buildFields, historyFields]
      apply Runs.bind (build_runs slots item s hwf hslots)
      intro v s' _ hleads hv
      refine Runs.bind_quiet (buildFields_runs slots rest s' hleads.wellFormed
        (hleads.grows.holdsEach hslots)) ?_
      intro fields s'' _ hleads' hfields
      exact Runs.pure hleads'.wellFormed
        (List.forall_mem_cons.mpr ⟨hleads'.grows.holds v hv, hfields⟩)

theorem buildParts_runs (slots : Slots) : ∀ (parts : List (UnitPart × Expression)) (s : Store),
    s.WellFormed → s.HoldsEach slots →
      Runs target False (historyParts slots parts s) (buildParts slots parts) s
        fun values s' => s'.HoldsEach values
  | [], s, hwf, _ => by
      simp only [buildParts, historyParts]
      exact Runs.pure hwf fun _ hpair => by cases hpair
  | (part, item) :: rest, s, hwf, hslots => by
      simp only [buildParts, historyParts]
      apply Runs.bind (build_runs slots item s hwf hslots)
      intro v s' _ hleads hv
      refine Runs.bind_quiet (buildParts_runs slots rest s' hleads.wellFormed
        (hleads.grows.holdsEach hslots)) ?_
      intro values s'' _ hleads' hvalues
      exact Runs.pure hleads'.wellFormed
        (List.forall_mem_cons.mpr ⟨hleads'.grows.holds v hv, hvalues⟩)

end

end Expression

end SwayControl
