import SwayControl.Proofs.Builder.InStep
import SwayControl.Proofs.Builder.Operation

/-!
Runs of operations. `Building.Runs` says what an operation guarantees from a well-formed store, whether
it answers or fails: where it leads, that the store stays in step unless an argument was refused, and
which commands were put into batches on the way. Guarantees compose along the operation, so each part is
looked at once.
-/

namespace SwayControl

/-- The text a value stands for as a command, written from parts: a text or keyword as it is, any other
value from the scratch texts of the store. -/
def Value.written (s : Store) : Value → Reading String
  | .text t => .ok t
  | .keyword w => .ok w.text
  | value => value.commandText s.scratch

/-- Which commands were put into batches, in order: the batch, and the command as it was written from
its parts at that moment. -/
abbrev History := List (Nat × Reading String)

/-- The part of a history that is about one batch. -/
def History.of (history : History) (i : Nat) : List (Reading String) :=
  history.filterMap fun piece => if piece.1 = i then some piece.2 else none

theorem History.of_append (h h' : History) (i : Nat) : (h ++ h').of i = h.of i ++ h'.of i :=
  List.filterMap_append

theorem History.of_nil (i : Nat) : History.of [] i = [] := rfl

namespace Store

/-- The texts of the entries of a batch. -/
def entryTexts (s : Store) (i : Nat) : List (Reading String) :=
  ((s.batches[i]?).elim [] Batch.commands).map (Value.commandText s.texts)

/-- What a run that no refused argument ended leaves of a store in step: it is in step again, and the
entries of each batch have become those of the history more. -/
structure Keeps (s : Store) (history : History) (s' : Store) : Prop where
  inStep : s'.InStep
  entries : ∀ i, s'.entryTexts i = s.entryTexts i ++ history.of i

variable {s s' s'' : Store} {h h' : History}

/-- The entries that a batch has never change their text. -/
theorem Grows.entryTexts_eq (hgrows : s.Grows s') (hwf : s.WellFormed) {i : Nat}
    (hbatch : s'.batches[i]? = s.batches[i]?) : s'.entryTexts i = s.entryTexts i := by
  simp only [entryTexts, hbatch]
  cases hb : s.batches[i]? with
  | none => rfl
  | some b =>
      apply List.map_congr_left
      intro entry hentry
      exact hgrows.commandText_eq ((hwf.batches i b hb).cited entry hentry)

theorem Keeps.refl (hinStep : s.InStep) : s.Keeps [] s :=
  ⟨hinStep, fun i => by rw [History.of_nil, List.append_nil]⟩

theorem Keeps.trans (hs : s.Keeps h s') (hs' : s'.Keeps h' s'') : s.Keeps (h ++ h') s'' where
  inStep := hs'.inStep
  entries i := by
    rw [hs'.entries, hs.entries, History.of_append, List.append_assoc]

/-- A run that leaves all batches alone adds nothing to the history. -/
theorem InStep.keeps (hinStep : s'.InStep) (hwf : s.WellFormed) (hgrows : s.Grows s')
    (hbatches : s'.batches = s.batches) : s.Keeps [] s' where
  inStep := hinStep
  entries i := by
    rw [hgrows.entryTexts_eq hwf (by rw [hbatches]), History.of_nil, List.append_nil]

end Store

namespace Building

variable {α β : Type} {target target' : Ref → Prop} {direct direct' : Prop} {s s' : Store}
  {x : Building α} {f : α → Building β} {post : α → Store → Prop} {post' : β → Store → Prop}
  {h : History}

/-- The history of what follows an operation that answers. -/
def following (x : Building α) (s : Store) (next : α → Store → History) : History :=
  match x.run s with
  | .ok a s' => next a s'
  | .error _ _ => []

/-- What an operation guarantees when it runs from a store: where it leads, what it keeps, and what holds
of its answer. `direct` is the case of an edit that goes past the unit it concerns, where nothing is
said about texts. -/
def Runs (target : Ref → Prop) (direct : Prop) (history : History) (x : Building α) (s : Store)
    (post : α → Store → Prop) : Prop :=
  match x.run s with
  | .ok a s' =>
    s.Leads target s' ∧ (¬ direct → s.InStep → s.Keeps history s') ∧ post a s'
  | .error fault s' =>
    s.Leads target s' ∧ ((∀ r, fault ≠ .refused r) → s.InStep → s.Keeps history s')

theorem following_ok {a : α} (hrun : x.run s = .ok a s') (next : α → Store → History) :
    following x s next = next a s' := by
  simp only [following, hrun]

theorem following_error {fault : Fault} (hrun : x.run s = .error fault s')
    (next : α → Store → History) : following x s next = [] := by
  simp only [following, hrun]

theorem following_nil (x : Building α) (s : Store) : following x s (fun _ _ => []) = [] := by
  unfold following
  split <;> rfl

theorem following_append (x : Building α) (s : Store) (next next' : α → Store → History) :
    following x s next ++ following x s next' =
      following x s fun a s' => next a s' ++ next' a s' := by
  unfold following
  split <;> rfl

theorem Runs.of_ok {a : α} (hrun : x.run s = .ok a s') (hleads : s.Leads target s')
    (hkeeps : ¬ direct → s.InStep → s.Keeps h s') (hpost : post a s') :
    Runs target direct h x s post := by
  simp only [Runs, hrun]
  exact ⟨hleads, hkeeps, hpost⟩

theorem Runs.of_error {fault : Fault} (hrun : x.run s = .error fault s')
    (hleads : s.Leads target s')
    (hkeeps : (∀ r, fault ≠ .refused r) → s.InStep → s.Keeps h s') :
    Runs target direct h x s post := by
  simp only [Runs, hrun]
  exact ⟨hleads, hkeeps⟩

/-- What an operation guarantees where it is known to answer. -/
theorem Runs.answered {a : α} (hx : Runs target direct h x s post) (hrun : x.run s = .ok a s') :
    s.Leads target s' ∧ post a s' := by
  simp only [Runs, hrun] at hx
  exact ⟨hx.1, hx.2.2⟩

/-- A refused argument is the one fault that may leave a store out of step. -/
theorem Runs.of_refused {refusal : Refusal} (hrun : x.run s = .error (.refused refusal) s')
    (hleads : s.Leads target s') : Runs target direct h x s post :=
  Runs.of_error hrun hleads fun hnot => absurd rfl (hnot refusal)

/-- A fault that comes before anything has changed. -/
theorem Runs.of_untouched {fault : Fault} (hwf : s.WellFormed) (hrun : x.run s = .error fault s) :
    Runs target direct [] x s post :=
  Runs.of_error hrun hwf.leads fun _ hinStep => Store.Keeps.refl hinStep

theorem Runs.pure (hwf : s.WellFormed) {a : α} (hpost : post a s) :
    Runs target direct [] (pure a) s post :=
  Runs.of_ok (EStateM.run_pure a s) hwf.leads (fun _ hinStep => Store.Keeps.refl hinStep) hpost

theorem Runs.bind {next : α → Store → History} (hx : Runs target False h x s post)
    (hf : ∀ a s', x.run s = .ok a s' → s.Leads target s' → post a s' →
      Runs target direct (next a s') (f a) s' post') :
    Runs target direct (h ++ following x s next) (x >>= f) s post' := by
  apply Ends.bind hx
  · rintro a s' hrun ⟨hleads, hkeeps, hpost⟩
    rw [following_ok hrun]
    have hboth : ∀ s'', (s'.InStep → s'.Keeps (next a s') s'') → s.InStep →
        s.Keeps (h ++ next a s') s'' := fun s'' hkeeps' hinStep =>
      (hkeeps not_false hinStep).trans (hkeeps' (hkeeps not_false hinStep).inStep)
    apply Ends.imp (hf a s' hrun hleads hpost)
    · rintro b s'' ⟨hleads', hkeeps', hpost'⟩
      exact ⟨hleads.trans hleads', fun hdirect => hboth s'' (hkeeps' hdirect), hpost'⟩
    · rintro fault s'' ⟨hleads', hkeeps'⟩
      exact ⟨hleads.trans hleads', fun hnot => hboth s'' (hkeeps' hnot)⟩
  · intro fault s' hrun hfault
    rw [following_error hrun, List.append_nil]
    exact hfault

/-- What follows may leave all batches alone; then the history is that of the first operation. -/
theorem Runs.bind_quiet (hx : Runs target False h x s post)
    (hf : ∀ a s', x.run s = .ok a s' → s.Leads target s' → post a s' →
      Runs target direct [] (f a) s' post') : Runs target direct h (x >>= f) s post' := by
  have hbind := hx.bind hf
  rwa [following_nil, List.append_nil] at hbind

/-- The first operation may leave all batches alone; then the history is that of what follows. -/
theorem Runs.quiet_bind {next : α → Store → History} (hx : Runs target False [] x s post)
    (hf : ∀ a s', x.run s = .ok a s' → s.Leads target s' → post a s' →
      Runs target direct (next a s') (f a) s' post') :
    Runs target direct (following x s next) (x >>= f) s post' := by
  have hbind := hx.bind hf
  rwa [List.nil_append] at hbind

theorem Runs.mono {post' : α → Store → Prop} (hx : Runs target direct h x s post)
    (htarget : ∀ ref, s.Has ref → target ref → target' ref) (hdirect : direct → direct')
    (hpost : ∀ a s', s.Leads target s' → post a s' → post' a s') :
    Runs target' direct' h x s post' := by
  apply Ends.imp hx
  · rintro a s' ⟨hleads, hkeeps, ha⟩
    exact ⟨hleads.mono htarget, fun hnot => hkeeps (mt hdirect hnot), hpost a s' hleads ha⟩
  · rintro fault s' ⟨hleads, hkeeps⟩
    exact ⟨hleads.mono htarget, hkeeps⟩

theorem Runs.imp {post' : α → Store → Prop} (hx : Runs target direct h x s post)
    (hpost : ∀ a s', s.Leads target s' → post a s' → post' a s') :
    Runs target direct h x s post' :=
  hx.mono (fun _ _ ht => ht) (fun hd => hd) hpost

/-- An operation that answers leaves a store in step, and what follows may use that. -/
theorem Runs.and_inStep (hx : Runs target False h x s post) :
    Runs target False h x s fun a s' => post a s' ∧ (s.InStep → s'.InStep) := by
  refine Ends.imp hx ?_ fun _ _ hfault => hfault
  rintro a s' ⟨hleads, hkeeps, ha⟩
  exact ⟨hleads, hkeeps, ha, fun hinStep => (hkeeps not_false hinStep).inStep⟩

/-- An operation that only changes what it has made itself has no target. -/
theorem Runs.of_fresh (hx : Runs (fun ref => ¬ s.Has ref) direct h x s post) :
    Runs target direct h x s post :=
  hx.mono (fun _ href hfresh => absurd href hfresh) (fun hd => hd) fun _ _ _ ha => ha

/-- A loop keeps what each of its rounds keeps. -/
theorem Runs.forM (target : Ref → Prop) (f : α → Building Unit) (held : α → Store → Prop)
    (inv : Store → Prop)
    (hheld : ∀ a s s', held a s → s.Grows s' → held a s')
    (hstep : ∀ a s, s.WellFormed → held a s → inv s →
      Runs target False [] (f a) s fun _ s' => inv s') :
    ∀ (items : List α) (s : Store), s.WellFormed → (∀ a ∈ items, held a s) → inv s →
      Runs target False [] (items.forM f) s fun _ s' => inv s' := by
  intro items
  induction items with
  | nil => exact fun s hwf _ hinv => Runs.pure hwf hinv
  | cons a rest ih =>
      intro s hwf hitems hinv
      apply Runs.bind_quiet (hstep a s hwf (hitems a List.mem_cons_self) hinv)
      intro _ s' _ hleads hinv'
      exact ih s' hleads.wellFormed (fun b hb =>
        hheld b s s' (hitems b (List.mem_cons_of_mem _ hb)) hleads.grows) hinv'

end Building

end SwayControl
