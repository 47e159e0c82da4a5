/-!
Work that succeeds or fails. What succeeds as a whole has succeeded step by step, over a list item by item,
and its results are those of the steps; what fails has failed in one of them.
-/

namespace SwayControl

variable {α β γ ε δ : Type} {f : α → Except ε β} {item last : α} {items : List α} {result : β}
  {results : List β}

theorem bind_eq_ok {x : Except ε α} :
    x >>= f = .ok result ↔ ∃ a, x = .ok a ∧ f a = .ok result := by
  cases x <;> simp [bind, Except.bind]

theorem map_eq_ok {x : Except ε α} {g : α → β} : g <$> x = .ok result ↔ ∃ a, x = .ok a ∧ g a = result := by
  cases x <;> simp [Functor.map, Except.map]

theorem mapError_eq_ok {make : ε → δ} {x : Except ε α} {a : α} :
    x.mapError make = .ok a ↔ x = .ok a := by
  constructor <;> intro h <;> cases x <;> cases h <;> rfl

theorem toOption_eq_some {x : Except ε α} {a : α} : x.toOption = some a ↔ x = .ok a := by
  cases x <;> simp [Except.toOption]

theorem bind_eq_error {x : Except ε α} {fault : ε} :
    x >>= f = .error fault ↔ x = .error fault ∨ ∃ a, x = .ok a ∧ f a = .error fault := by
  cases x <;> simp [bind, Except.bind]

theorem mapError_eq_error {make : ε → δ} {x : Except ε α} {fault : δ} :
    x.mapError make = .error fault ↔ ∃ e, x = .error e ∧ make e = fault := by
  cases x with
  | ok a =>
      constructor
      · intro h
        cases h
      · rintro ⟨e, h, -⟩
        cases h
  | error e =>
      constructor
      · intro h
        exact ⟨e, rfl, Except.error.inj h⟩
      · rintro ⟨_, h, rfl⟩
        cases h
        rfl

/-- An outcome that is no failure, or one of some kind. -/
def FailsAs (kind : ε → Prop) (x : Except ε α) : Prop := ∀ fault, x = .error fault → kind fault

section FailsAs

variable {kind : ε → Prop} {x : Except ε α}

theorem failsAs_ok (a : α) : FailsAs kind (.ok a) := nofun

theorem failsAs_error {fault : ε} (h : kind fault) : FailsAs kind (.error fault : Except ε α) := by
  rintro _ ⟨⟩
  exact h

theorem FailsAs.bind (hx : FailsAs kind x) (hf : ∀ a, FailsAs kind (f a)) : FailsAs kind (x >>= f) := by
  intro fault h
  rcases bind_eq_error.mp h with hfirst | ⟨a, -, hrest⟩
  · exact hx fault hfirst
  · exact hf a fault hrest

theorem FailsAs.mono {other : ε → Prop} (hx : FailsAs kind x) (h : ∀ fault, kind fault → other fault) :
    FailsAs other x := fun fault hfault => h fault (hx fault hfault)

theorem failsAs_mapError {make : δ → ε} (hmake : ∀ fault, kind (make fault)) (x : Except δ α) :
    FailsAs kind (x.mapError make) := by
  intro fault h
  obtain ⟨e, -, rfl⟩ := mapError_eq_error.mp h
  exact hmake e

end FailsAs

theorem mapM_cons_eq_ok : (item :: items).mapM f = .ok results ↔
    ∃ first others, f item = .ok first ∧ items.mapM f = .ok others ∧ results = first :: others := by
  rw [List.mapM_cons, bind_eq_ok]
  constructor
  · rintro ⟨first, hfirst, hrest⟩
    obtain ⟨others, hothers, hresults⟩ := bind_eq_ok.mp hrest
    exact ⟨first, others, hfirst, hothers, (Except.ok.inj hresults).symm⟩
  · rintro ⟨first, others, hfirst, hothers, rfl⟩
    exact ⟨first, hfirst, bind_eq_ok.mpr ⟨others, hothers, rfl⟩⟩

/-- A list is read to its end if what came first was read and the last item is. -/
theorem mapM_concat_ok (hitems : items.mapM f = .ok results) (hlast : f last = .ok result) :
    (items ++ [last]).mapM f = .ok (results ++ [result]) := by
  rw [List.mapM_append, hitems]
  simp only [List.mapM_cons, hlast, List.mapM_nil]
  rfl

theorem map_eq_of_mapM_ok (h : items.mapM f = .ok results) :
    items.map f = results.map Except.ok := by
  induction items generalizing results with
  | nil =>
      cases h
      rfl
  | cons item rest ih =>
      obtain ⟨first, others, hfirst, hothers, rfl⟩ := mapM_cons_eq_ok.mp h
      rw [List.map_cons, List.map_cons, hfirst, ih hothers]

/-- Reading a list to its end is reading every item, and nothing else. -/
theorem mapM_eq_ok_iff : items.mapM f = .ok results ↔ items.map f = results.map Except.ok := by
  refine ⟨map_eq_of_mapM_ok, fun h => ?_⟩
  induction items generalizing results with
  | nil =>
      rw [List.map_nil, eq_comm, List.map_eq_nil_iff] at h
      rw [h]
      rfl
  | cons item rest ih =>
      obtain ⟨first, others, rfl, hfirst, hothers⟩ := List.map_eq_cons_iff.mp h.symm
      exact mapM_cons_eq_ok.mpr ⟨first, others, hfirst.symm, ih hothers.symm, rfl⟩

theorem mapM_ok_length (h : items.mapM f = .ok results) : results.length = items.length := by
  simpa using (congrArg List.length (map_eq_of_mapM_ok h)).symm

theorem mapM_ok_eq_nil_iff (h : items.mapM f = .ok results) : results = [] ↔ items = [] := by
  rw [← List.length_eq_zero_iff, ← List.length_eq_zero_iff, mapM_ok_length h]

theorem exists_of_mapM_ok (h : items.mapM f = .ok results) :
    ∀ item ∈ items, ∃ result, f item = .ok result := by
  intro item hitem
  have hmap : f item ∈ items.map f := List.mem_map_of_mem hitem
  rw [map_eq_of_mapM_ok h] at hmap
  obtain ⟨result, -, hresult⟩ := List.mem_map.mp hmap
  exact ⟨result, hresult.symm⟩

/-- A list is read to its end if every item can be read. -/
theorem mapM_eq_ok_of_forall (h : ∀ item ∈ items, ∃ result, f item = .ok result) :
    ∃ results, items.mapM f = .ok results := by
  induction items with
  | nil => exact ⟨[], rfl⟩
  | cons item rest ih =>
      obtain ⟨⟨first, hfirst⟩, hrest⟩ := List.forall_mem_cons.mp h
      obtain ⟨others, hothers⟩ := ih hrest
      exact ⟨first :: others, mapM_cons_eq_ok.mpr ⟨first, others, hfirst, hothers, rfl⟩⟩

/-- What is made of the items read can be made of each as it is read. -/
theorem mapM_map_ok (g : β → γ) (h : items.mapM f = .ok results) :
    (items.mapM fun item => g <$> f item) = Except.ok (results.map g) := by
  induction items generalizing results with
  | nil =>
      cases h
      rfl
  | cons item rest ih =>
      obtain ⟨first, others, hfirst, hothers, rfl⟩ := mapM_cons_eq_ok.mp h
      exact mapM_cons_eq_ok.mpr ⟨g first, others.map g, by rw [hfirst]; rfl, ih hothers, rfl⟩

end SwayControl
