import SwayControl.Proofs.Builder.Evolution
import SwayControl.Proofs.Builder.Immutability
import SwayControl.Service.Dispatch

/-!
Collecting commands in a batch. What is kept of a command has the text of the command as it stood, so a
batch of well-typed commands has their texts, joined, and its text does not depend on how it was built:
of the commands at once, one by one, or of the entries of another batch.
-/

namespace SwayControl

/-- The text of a command as it stands: a text or a keyword is its own. -/
def Value.asCommand (texts : Ref → String) : Value → Reading String
  | .text t => .ok t
  | .keyword w => .ok w.text
  | value => value.commandText texts

namespace Store

/-- A batch whose entries have some texts, and whose text is these joined. -/
def Collects (s : Store) (i : Nat) (texts : List String) : Prop :=
  ∃ b, s.batches[i]? = some b ∧ b.commands.mapM (Value.commandText s.texts) = .ok texts ∧
    b.text = commandSeparator.intercalate texts

variable {s s' : Store} {i : Nat} {texts : List String} {v : Value}

/-- In step, a batch collects the texts of its entries. -/
theorem BatchesInStep.collects (h : s.BatchesInStep) {b : Batch} (hb : s.batches[i]? = some b)
    (hentries : b.commands.mapM (Value.commandText s.texts) = .ok texts) : s.Collects i texts := by
  have htext := (h i b hb).2
  rw [batchText, hentries] at htext
  exact ⟨b, hb, hentries, (Except.ok.inj htext).symm⟩

/-- The entries of a batch have the same texts in every store that the store grows into. -/
theorem Grows.entries_eq (hgrows : s.Grows s') (hwf : s.WellFormed) {b : Batch}
    (hb : s.batches[i]? = some b) (hentries : b.commands.mapM (Value.commandText s.texts) = .ok texts) :
    b.commands.mapM (Value.commandText s'.texts) = .ok texts := by
  rw [mapM_eq_ok_iff] at hentries ⊢
  rw [← hentries]
  apply List.map_congr_left
  intro entry hentry
  exact hgrows.commandText_eq ((hwf.batches i b hb).cited entry hentry)

/-- The text of a command depends on builders that the store has. -/
theorem Leads.asCommand_eq (h : s.Leads (fun _ => False) s') (hv : s.Holds v) :
    v.asCommand s'.texts = v.asCommand s.texts := by
  have hframe (ref : Ref) (href : s.Has ref) : s'.texts ref = s.texts ref :=
    (h.frame ref href not_false).texts_eq
  cases v with
  | record form fields =>
      exact Value.commandText_congr _ fun ref href => hframe ref (hv.cited ref href).has
  | builder ref =>
      cases ref with
      | unit i => exact congrArg Except.ok (hframe _ hv)
      | _ => rfl
  | _ => rfl

theorem Leads.staysIn (h : s.Leads (fun _ => False) s') : s.StaysIn s' :=
  fun ref href => h.frame ref href not_false

/-- A change of builders that were not there leaves all alone that were. -/
theorem Leads.past {target : Ref → Prop} {s₀ : Store} (h : s₀.Leads (fun _ => False) s)
    (hnew : ∀ ref, target ref → ¬ s₀.Has ref) (h' : s.Leads target s') :
    s₀.Leads (fun _ => False) s' := by
  have hboth : s₀.Leads target s' := (h.mono fun _ _ hf => hf.elim).trans h'
  exact hboth.mono fun ref href htarget => hnew ref htarget href

end Store

namespace Building

variable {s s' : Store} {i : Nat} {v kept : Value} {done texts : List String}

/-- What is kept of a command has the text of the command as it stood. -/
theorem entry_asCommand (hwf : s.WellFormed) (hv : s.Holds v) :
    Runs (fun _ => False) False [] (entry v) s fun (kept : Value) s' =>
      kept.commandText s'.texts = v.asCommand s.texts := by
  have hfrozen (j : Nat) (t : Store) (hwf' : t.WellFormed)
      (htext : v.asCommand s.texts = .ok (t.texts (.unit j))) :
      Runs (fun _ => False) False [] (do return Value.builder (.unit (← freezeUnit j))) t fun kept s' =>
        kept.commandText s'.texts = v.asCommand s.texts := by
    apply Runs.bind_quiet (freezeUnit_runs hwf')
    rintro k s' _ hleads ⟨-, hsame⟩
    apply Runs.pure hleads.wellFormed
    rw [htext, ← hsame]
    rfl
  cases v with
  | builder ref =>
      cases ref with
      | unit j => exact hfrozen j s hwf rfl
      | _ => exact Runs.pure hwf rfl
  | record form fields =>
      cases form with
      | subCommand form =>
          apply Runs.bind_quiet (unitOf_runs hwf hv)
          rintro j t _ hleads ⟨command, hread, htext⟩
          apply hfrozen j t hleads.wellFormed
          rw [htext]
          exact map_eq_ok.mpr ⟨command, hread, rfl⟩
      | _ => exact Runs.pure hwf rfl
  | _ => exact Runs.pure hwf rfl

/-- A well-typed command goes into a batch that was started later, behind what that has collected. -/
theorem append_collects {s₀ : Store} (hleads : s₀.Leads (fun _ => False) s)
    (hfresh : ¬ s₀.Has (.batch i)) (hcollects : s.Collects i done) (hholds : s₀.Holds v)
    (hfits : Kind.command.Fits v) (htyped : s₀.WellTyped v) :
    ∃ text s', (append i v).run s = .ok () s' ∧ v.asCommand s₀.texts = .ok text ∧
      s₀.Leads (fun _ => False) s' ∧ s'.Collects i (done ++ [text]) := by
  have hv := hleads.grows.holds v hholds
  obtain ⟨b, hb, hentries, hwritten⟩ := hcollects
  obtain ⟨kept, s₁, text, hentry, hleads₁, hb₁, -, hcited, htext, happend, hput⟩ :=
    Session.append_lasting hleads.wellFormed hb hv hfits (hleads.staysIn.wellTyped htyped)
  obtain ⟨-, hsame⟩ := (entry_asCommand hleads.wellFormed hv).answered hentry
  rw [htext, hleads.asCommand_eq hholds] at hsame
  have htarget : ∀ ref, ref = .batch i → ¬ s₀.Has ref := by
    rintro _ rfl
    exact hfresh
  refine ⟨text, _, happend, hsame.symm, ?_, ?_⟩
  · exact (hleads.past (fun _ hf => hf.elim) hleads₁).past htarget hput
  · have hgrows := hleads₁.grows.trans hput.grows
    have hbefore := hgrows.entries_eq hleads.wellFormed hb hentries
    have hlast := (hput.grows.commandText_eq hcited).trans htext
    have hall := mapM_concat_ok hbefore hlast
    refine ⟨_, List.getElem?_set_self (Store.has_batch hb₁), hall, ?_⟩
    have hjoined := batchText_concat (by rw [batchText, hbefore, hwritten]; rfl) hlast
    rw [batchText, hall] at hjoined
    exact (Except.ok.inj hjoined).symm

/-- The commands are appended one after another, so the induction is on them, and each is looked at in
the store where all began. -/
theorem forM_append_collects {s₀ : Store} (hfresh : ¬ s₀.Has (.batch i)) {commands : List Value}
    (hcommands : ∀ v ∈ commands, s₀.Holds v ∧ Kind.command.Fits v ∧ s₀.WellTyped v) :
    ∀ s done, s₀.Leads (fun _ => False) s → s.Collects i done →
      ∃ texts s', (commands.forM (append i)).run s = .ok () s' ∧
        commands.mapM (Value.asCommand s₀.texts) = .ok texts ∧
        s₀.Leads (fun _ => False) s' ∧ s'.Collects i (done ++ texts) := by
  induction commands with
  | nil =>
      intro s done hleads hcollects
      refine ⟨[], s, rfl, rfl, hleads, ?_⟩
      rwa [List.append_nil]
  | cons v rest ih =>
      intro s done hleads hcollects
      obtain ⟨⟨hholds, hfits, htyped⟩, hrest⟩ := List.forall_mem_cons.mp hcommands
      obtain ⟨text, s₁, hfirst, htext, hleads₁, hcollects₁⟩ :=
        append_collects hleads hfresh hcollects hholds hfits htyped
      obtain ⟨texts, s₂, hothers, htexts, hleads₂, hcollects₂⟩ :=
        ih hrest s₁ (done ++ [text]) hleads₁ hcollects₁
      refine ⟨text :: texts, s₂, ?_, mapM_cons_eq_ok.mpr ⟨text, texts, htext, htexts, rfl⟩, hleads₂, ?_⟩
      · exact (run_bind_ok hfirst).trans hothers
      · rwa [List.append_assoc] at hcollects₂

/-- A batch of well-typed commands collects their texts as they stand. -/
theorem batchOf_collects (hwf : s.WellFormed) {commands : List Value}
    (hcommands : ∀ v ∈ commands, s.Holds v ∧ Kind.command.Fits v ∧ s.WellTyped v) :
    ∃ texts i s', (batchOf commands).run s = .ok i s' ∧
      commands.mapM (Value.asCommand s.texts) = .ok texts ∧
      s.Leads (fun _ => False) s' ∧ s'.Collects i texts := by
  have hfresh : ¬ s.Has (.batch s.batches.length) := Nat.lt_irrefl _
  have hempty : s.SoundBatch ⟨[], ""⟩ := ⟨trivial, fun entry hentry => by cases hentry⟩
  have hstarted : (s.addBatch ⟨[], ""⟩).Collects s.batches.length [] :=
    ⟨_, List.getElem?_concat_length, rfl, rfl⟩
  obtain ⟨texts, s', hrun, htexts, hleads, hcollects⟩ :=
    forM_append_collects hfresh hcommands _ [] (hwf.leads_addBatch hempty) hstarted
  refine ⟨texts, s.batches.length, s', ?_, htexts, hleads, hcollects⟩
  rw [batchOf, run_bind_ok run_startBatch, run_bind_ok hrun]
  rfl

end Building

namespace Store

variable {s : Store} {i : Nat} {texts : List String}

/-- The order for a batch is one for the texts that it collects. -/
theorem Collects.order (h : s.Collects i texts) (normalize : Bool) :
    ((Submission.batch i).order normalize).run s = .ok (Order.ofTexts texts normalize) s := by
  obtain ⟨b, hb, hentries, htext⟩ := h
  have horder : b.order normalize = Order.ofTexts texts normalize := by
    simp only [Batch.order, Order.ofTexts, htext, mapM_ok_length hentries]
  have hrun : ((Submission.batch i).order normalize).run s = .ok (b.order normalize) s := by
    simp only [Submission.order, Submission.asBatch, pure_bind]
    rw [Building.run_bind_ok (Building.run_batch hb)]
    rfl
  rw [hrun, horder]

end Store

end SwayControl
