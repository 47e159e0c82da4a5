import SwayControl.Proofs.Builder.Collection
import SwayControl.Proofs.Builder.Rule

/-!
Coercing commands. What is kept of a command has the text of the command, is kept as it is when it is
coerced once more, and has that text wherever it goes: as the only entry of a batch, and behind what
bindings and rules write in front of the command that they run, however many are put around each other.
-/

namespace SwayControl

/-- The last slot is written as it is, behind all that is in front of it. -/
theorem spaced_last (slots : List String) (slot text : String) :
    spaced (slots ++ [slot, text]) = spaced (slots ++ [slot, ""]) ++ text := by
  have hsplit (last : String) : slots ++ [slot, last] = (slots ++ [slot]) ++ [last] :=
    List.append_cons slots slot [last]
  have hne : slots ++ [slot] ≠ [] := List.concat_ne_nil slot slots
  simp only [hsplit, spaced, intercalate_concat hne, String.append_empty]

namespace Value

variable {texts : Ref → String} {v : Value}

theorem asCommand_text (h : v.IsText) : v.asCommand texts = v.readText := by
  rcases h with ⟨t, rfl⟩ | ⟨w, rfl⟩ <;> rfl

theorem asCommand_other (h : ¬ v.IsText) : v.asCommand texts = v.commandText texts := by
  cases v with
  | text t => exact absurd (.inl ⟨t, rfl⟩) h
  | keyword w => exact absurd (.inr ⟨w, rfl⟩) h
  | _ => rfl

end Value

/-- A binding or a rule for windows, but for the command that it runs. -/
inductive Wrapper where
  | bindsym (key flags : Value)
  | bindcode (key flags : Value)
  | bindswitch (switch state flags : Value)
  | forWindow (clause : Value)

namespace Wrapper

def form : Wrapper → TopLevelForm
  | bindsym .. => .bindsym
  | bindcode .. => .bindcode
  | bindswitch .. => .bindswitch
  | forWindow _ => .forWindow

/-- The fields before the command. -/
def before : Wrapper → List Value
  | bindsym key _ => [key]
  | bindcode key _ => [key]
  | bindswitch switch state _ => [switch, state]
  | forWindow clause => [clause]

/-- The fields behind the command. -/
def after : Wrapper → List Value
  | bindsym _ flags => [flags]
  | bindcode _ flags => [flags]
  | bindswitch _ _ flags => [flags]
  | forWindow _ => []

/-- All fields around a command. -/
def fields (w : Wrapper) (command : Value) : List Value := w.before ++ command :: w.after

/-- The record around what is kept of a command. -/
def around (w : Wrapper) (kept : Value) : Value := .record (.topLevel w.form) (w.fields kept)

/-- What is written in front of the command. -/
def front (texts : Ref → String) : Wrapper → Reading String
  | bindsym key flags => do
    let flags ← flags.readBindFlags
    return spaced (["bindsym"] ++ flags.slots ++ [(← key.readSymKey).render, ""])
  | bindcode key flags => do
    let flags ← flags.readBindFlags
    return spaced (["bindcode"] ++ flags.slots ++ [(← key.readCodeKey).render, ""])
  | bindswitch switch state flags => do
    let flags ← flags.readSwitchFlags
    return spaced ["bindswitch", flags.render, switchEvent (← switch.readWord) (← state.readWord), ""]
  | forWindow clause => return spaced ["for_window", ← clause.readClause texts, ""]

/-- Puts wrappers around a command, the first of them outermost. -/
def nest : List Wrapper → Value → Building Value
  | [], command => return command
  | w :: rest, command => do Building.record (.topLevel w.form) (w.fields (← nest rest command))

/-- Whether a wrapper has well-typed fields of the kinds that they are to be of. -/
structure TypedIn (s : Store) (w : Wrapper) : Prop where
  holds : ∀ v ∈ w.before ++ w.after, s.Holds v
  typed : ∀ v ∈ w.before ++ w.after, s.WellTyped v
  fits : ∀ command, Kind.command.Fits command →
    List.Forall₂ Kind.Fits (Form.topLevel w.form).kinds (w.fields command)

variable {s s' : Store} {w : Wrapper} {v : Value} {text : String}

theorem forall_mem_fields {P : Value → Prop} (hv : P v) (hw : ∀ u ∈ w.before ++ w.after, P u) :
    ∀ u ∈ w.fields v, P u := by
  intro u hu
  rcases List.mem_append.mp hu with hbefore | hrest
  · exact hw u (List.mem_append_left _ hbefore)
  · rcases List.mem_cons.mp hrest with rfl | hafter
    · exact hv
    · exact hw u (List.mem_append_right _ hafter)

theorem length_fields (w : Wrapper) (v : Value) :
    (w.fields v).length = (Form.topLevel w.form).signature.fields.length := by
  cases w <;> rfl

theorem checkRecord_fields (w : Wrapper) (v : Value) :
    checkRecord (.topLevel w.form) (w.fields v) = .ok () := by
  cases w <;> rfl

theorem TypedIn.leads (h : w.TypedIn s) (hleads : s.Leads (fun _ => False) s') : w.TypedIn s' where
  holds v hv := hleads.grows.holds v (h.holds v hv)
  typed v hv := hleads.staysIn.wellTyped (h.typed v hv)
  fits := h.fits

/-- What is written in front of a command stays. -/
theorem front_eq (h : w.TypedIn s) (hleads : s.Leads (fun _ => False) s') :
    w.front s'.texts = w.front s.texts := by
  cases w with
  | forWindow clause =>
      have hclause := h.holds clause List.mem_cons_self
      cases clause with
      | builder ref =>
          cases ref with
          | group i =>
              have hsame : s'.texts (.group i) = s.texts (.group i) :=
                (hleads.frame (.group i) hclause not_false).texts_eq
              simp only [front, Value.readClause, hsame]
          | _ => rfl
      | _ => rfl
  | _ => rfl

/-- A wrapper is written with its own front first, and the text of its command behind it. -/
theorem commandText_around (w : Wrapper) (texts : Ref → String) (kept : Value) :
    (w.around kept).commandText texts = do
      let front ← w.front texts
      let text ← kept.commandText texts
      return front ++ text := by
  cases w <;>
    simp only [around, form, fields, before, after, front, Value.commandText, Value.embeddedText,
      Value.embeddedAt, Value.readTopLevelFields, List.cons_append, List.nil_append,
      map_eq_pure_bind, bind_assoc, pure_bind]
  case bindsym | bindcode =>
    exact bind_congr fun flags => bind_congr fun key => bind_congr fun text =>
      congrArg pure (spaced_last (_ :: flags.slots) key.render text)
  case bindswitch =>
    exact bind_congr fun flags => bind_congr fun switch => bind_congr fun state =>
      bind_congr fun text =>
        congrArg pure (spaced_last ["bindswitch", flags.render] (switchEvent switch state) text)
  case forWindow =>
    exact bind_congr fun clause => bind_congr fun text =>
      congrArg pure (spaced_last ["for_window"] clause text)

/-- What is written around a text is the front and, behind it, the text. -/
theorem commandText_around_ok {texts : Ref → String} {kept : Value} {whole : String}
    (hwhole : (w.around kept).commandText texts = .ok whole)
    (htext : kept.commandText texts = .ok text) :
    ∃ front, w.front texts = .ok front ∧ whole = front ++ text := by
  rw [commandText_around, htext] at hwhole
  cases hfront : w.front texts with
  | error refusal =>
      rw [hfront] at hwhole
      cases hwhole
  | ok front =>
      rw [hfront] at hwhole
      exact ⟨front, rfl, (Except.ok.inj hwhole).symm⟩

open Building

/-- What a record keeps of a wrapper: a rule keeps its clause frozen. -/
def keep : Wrapper → Building Wrapper
  | forWindow clause => return forWindow (← keptCriteria clause)
  | w => return w

/-- Making the record keeps the wrapper first, and then the command. -/
theorem record_eq (w : Wrapper) (command : Value) :
    record (.topLevel w.form) (w.fields command) = do
      let w' ← w.keep
      let kept ← entry command
      return w'.around kept := by
  cases w <;>
    simp only [record, checkRecord, keptFields, keep, around, form, fields, before, after,
      List.cons_append, List.nil_append, bind_assoc, pure_bind]

/-- What is kept of a wrapper has its front, now and later. -/
theorem keep_runs (hwf : s.WellFormed) (hw : w.TypedIn s) :
    Runs (fun _ => False) False [] w.keep s fun w' s' =>
      ∀ s'', s'.Leads (fun _ => False) s'' → w'.front s''.texts = w.front s.texts := by
  cases w with
  | forWindow clause =>
      apply Runs.bind_quiet (keptCriteria_runs hwf)
      rintro _ s' _ hleads ⟨j, rfl, hfrozen, hclause⟩
      apply Runs.pure hleads.wellFormed
      intro s'' hlater
      have hsame : s''.texts (.group j) = s'.texts (.group j) :=
        (hlater.grows.same_of_frozen hfrozen).texts_eq
      have hkept : (Value.builder (.group j)).readClause s''.texts = clause.readClause s.texts := by
        rw [← hclause]
        simp only [Value.readClause, hsame]
      simp only [front, hkept]
  | _ => exact Runs.pure hwf fun _ hlater => front_eq hw hlater

/-- A record around a command is written with the front of the wrapper and the text that the command
had. -/
theorem record_runs_around (hwf : s.WellFormed) (hw : w.TypedIn s) (hv : s.Holds v) :
    Runs (fun _ => False) False [] (record (.topLevel w.form) (w.fields v)) s fun r s' =>
      ∃ (w' : Wrapper) (kept : Value), r = w'.around kept ∧ w'.front s'.texts = w.front s.texts ∧
        kept.commandText s'.texts = v.asCommand s.texts := by
  rw [record_eq]
  apply Runs.bind_quiet (keep_runs hwf hw)
  intro w' t _ hleads hfront
  apply Runs.bind_quiet (entry_asCommand hleads.wellFormed (hleads.grows.holds v hv))
  intro kept s' _ hleads' htext
  refine Runs.pure hleads'.wellFormed ⟨w', kept, rfl, hfront s' hleads', ?_⟩
  rw [htext, hleads.asCommand_eq hv]

/-- Around a well-typed command a wrapper makes a command whose text is that of the command, behind the
wrapper's own front. -/
theorem record_around (hwf : s.WellFormed) (hw : w.TypedIn s) (hv : s.Holds v)
    (hfits : Kind.command.Fits v) (htyped : s.WellTyped v) (htext : v.asCommand s.texts = .ok text) :
    ∃ front kept s', (record (.topLevel w.form) (w.fields v)).run s =
        .ok (.record (.topLevel w.form) kept) s' ∧
      s.Leads (fun _ => False) s' ∧ s'.Holds (.record (.topLevel w.form) kept) ∧
      s'.WellTyped (.record (.topLevel w.form) kept) ∧ w.front s.texts = .ok front ∧
      (Value.record (.topLevel w.form) kept).commandText s'.texts = .ok (front ++ text) := by
  have hholds : s.HoldsAll (w.fields v) := Store.holdsAll_iff.mpr (forall_mem_fields hv hw.holds)
  have htypedAll := forall_mem_fields htyped hw.typed
  have hchecked (fault : Fault) (hfault : checkRecord (.topLevel w.form) (w.fields v) = .error fault)
      (_ : fault.Documented) : False := by
    rw [w.checkRecord_fields v] at hfault
    cases hfault
  obtain ⟨r, s', hrun, -, ⟨kept, rfl⟩, htyped'⟩ :=
    (record_makes (hw.fits v hfits) htypedAll hchecked).ok
  obtain ⟨hleads, w', kept', hrecord, hfront, hkept⟩ :=
    (record_runs_around hwf hw hv).answered hrun
  have hruns : Runs (fun _ => False) False [] (record (.topLevel w.form) (w.fields v)) s _ :=
    record_holds_runs hwf hholds (w.length_fields v)
  obtain ⟨-, hholds'⟩ := hruns.answered hrun
  have hentry : (Value.record (.topLevel w.form) kept).IsEntry := .inr (.inr (.inl ⟨_, _, rfl⟩))
  obtain ⟨whole, hrendered⟩ := htyped'.entry_rendered hentry
  have hwhole := hrendered.commandText hentry
  have hwhole' : (w'.around kept').commandText s'.texts = .ok whole := hrecord ▸ hwhole
  obtain ⟨front, hfront', rfl⟩ := commandText_around_ok hwhole' (hkept.trans htext)
  exact ⟨front, kept, s', hrun, hleads, hholds', htyped', hfront ▸ hfront', hwhole⟩

/-- Wrappers around each other are written with all their fronts, from the outermost to the innermost,
and the text of the command behind them. -/
theorem nest_around (hwf : s.WellFormed) (hv : s.Holds v) (hfits : Kind.command.Fits v)
    (htyped : s.WellTyped v) (htext : v.asCommand s.texts = .ok text) {wrappers : List Wrapper}
    (hwrappers : ∀ w ∈ wrappers, w.TypedIn s) :
    ∃ fronts r s', (nest wrappers v).run s = .ok r s' ∧ s.Leads (fun _ => False) s' ∧ s'.Holds r ∧
      Kind.command.Fits r ∧ s'.WellTyped r ∧ wrappers.mapM (front s.texts) = .ok fronts ∧
      r.asCommand s'.texts = .ok (String.join fronts ++ text) ∧ (wrappers ≠ [] → ¬ r.IsText) := by
  induction wrappers with
  | nil =>
      refine ⟨[], v, s, rfl, hwf.leads, hv, hfits, htyped, rfl, ?_, fun hne => absurd rfl hne⟩
      simpa using htext
  | cons w rest ih =>
      obtain ⟨hw, hrest⟩ := List.forall_mem_cons.mp hwrappers
      obtain ⟨fronts, inner, t, hinner, hleads, hholds, hfits', htyped', hfronts, htext', -⟩ := ih hrest
      obtain ⟨front, kept, s', hrun, hleads', hholds', htyped'', hfront, hwhole⟩ :=
        record_around hleads.wellFormed (hw.leads hleads) hholds hfits' htyped' htext'
      refine ⟨front :: fronts, _, s', ?_, hleads.trans hleads', hholds',
        .inl (.inr (.inr (.inl ⟨_, _, rfl⟩))), htyped'', ?_, ?_, fun _ => ?_⟩
      · exact (run_bind_ok hinner).trans hrun
      · rw [front_eq hw hleads] at hfront
        exact mapM_cons_eq_ok.mpr ⟨front, fronts, hfront, hfronts, rfl⟩
      · rw [String.join_cons, String.append_assoc]
        exact hwhole
      · rintro (⟨_, ⟨⟩⟩ | ⟨_, ⟨⟩⟩)

end Wrapper

namespace Building

open Wrapper (nest front before after)

variable {s s' : Store} {kept x : Value}

/-- What was kept of a command is kept as it is, and nothing is changed. -/
theorem entry_again (hentry : kept.IsEntry) (hcited : ∀ ref ∈ kept.cited, s.Frozen ref) :
    (entry kept).run s = .ok kept s := by
  rcases hentry with ⟨i, rfl⟩ | ⟨fields, rfl⟩ | ⟨form, fields, rfl⟩ | ⟨form, fields, rfl⟩
  · obtain ⟨u, hu, hfrozen⟩ := hcited (.unit i) List.mem_cons_self
    exact run_bind_ok (run_freezeUnit_frozen hu hfrozen)
  · rfl
  · rfl
  · rfl

/-- Every well-typed command has one text: a text is its own. What is kept of the command has this text,
is kept as it is when it is coerced once more, and nothing happens to the command itself; and in step the
text is also what the command is written as from its parts. A batch of the command alone has this text,
and the bindings and rules around it have it last, behind their own fronts. -/
theorem entry_keeps_text (hwf : s.WellFormed) (hholds : s.Holds x) (hfits : Kind.command.Fits x)
    (htyped : s.WellTyped x) :
    ∃ text kept s', (entry x).run s = .ok kept s' ∧ kept.commandText s'.texts = .ok text ∧
      (x.IsText → x.readText = .ok text) ∧
      (¬ x.IsText → x.commandText s.texts = .ok text ∧ x.commandText s'.texts = .ok text) ∧
      (s.InStep → x.written s = .ok text) ∧
      (entry kept).run s' = .ok kept s' ∧
      (∃ i t b, (batchOf [x]).run s = .ok i t ∧ t.batches[i]? = some b ∧ b.text = text) ∧
      ∀ w rest, (∀ w' ∈ w :: rest, w'.TypedIn s) →
        ∃ fronts r t, (nest (w :: rest) x).run s = .ok r t ∧
          (w :: rest).mapM (front s.texts) = .ok fronts ∧
          r.commandText t.texts = .ok (String.join fronts ++ text) := by
  obtain ⟨kept, s', hrun, -, hentry, hkept⟩ := (entry_makes hfits htyped).ok
  have hruns : Runs (fun _ => False) False [] (entry x) s _ := entry_runs hwf hholds
  obtain ⟨hleads, -, hcited, hwritten⟩ := hruns.answered hrun
  obtain ⟨-, hsame⟩ := (entry_asCommand hwf hholds).answered hrun
  obtain ⟨text, hrendered⟩ := hkept.entry_rendered hentry
  have htext := hrendered.commandText hentry
  have hown : x.asCommand s.texts = .ok text := hsame.symm.trans htext
  refine ⟨text, kept, s', hrun, htext, fun hx => ?_, fun hx => ⟨?_, ?_⟩, fun hinStep => ?_,
    entry_again hentry hcited, ?_, fun w rest hwrappers => ?_⟩
  · rwa [Value.asCommand_text hx] at hown
  · rwa [Value.asCommand_other hx] at hown
  · rwa [← hleads.asCommand_eq hholds, Value.asCommand_other hx] at hown
  · exact (hwritten hinStep).symm.trans htext
  · have hall : ∀ v ∈ [x], s.Holds v ∧ Kind.command.Fits v ∧ s.WellTyped v :=
      List.forall_mem_singleton.mpr ⟨hholds, hfits, htyped⟩
    obtain ⟨texts, i, t, hbatch, htexts, -, b, hb, -, hjoined⟩ := batchOf_collects hwf hall
    obtain ⟨only, _, honly, hnone, rfl⟩ := mapM_cons_eq_ok.mp htexts
    cases hnone
    rw [hown] at honly
    cases honly
    exact ⟨i, t, b, hbatch, hb, hjoined.trans String.intercalate_singleton⟩
  · obtain ⟨fronts, r, t, hnest, -, -, -, -, hfronts, hwhole, hrecord⟩ :=
      Wrapper.nest_around hwf hholds hfits htyped hown hwrappers
    rw [Value.asCommand_other (hrecord (List.cons_ne_nil w rest))] at hwhole
    exact ⟨fronts, r, t, hnest, hfronts, hwhole⟩

/-- A group of criteria, and a unit that closes tiled windows. -/
def ruleParts : List Step :=
  [.assign "windows" (.group [.record (.criterion .floating) []] false),
    .assign "unit" (.unit [(.criterion, .record (.criterion .tiling) []),
      (.command, .record (.subCommand .kill) [])] false)]

/-- A binding for the lid, around a rule for the windows of the group. -/
def lidAndRule : List Wrapper :=
  [.bindswitch (.keyword (Keyword.word SwitchKind.lid)) (.keyword (Keyword.word SwitchState.on))
      noSwitchFlags,
    .forWindow (.builder (.group 0))]

theorem ruleParts_typed : (Session.start.after ruleParts).store.WellTyped (.builder (.unit 0)) ∧
    (Session.start.after ruleParts).store.WellTyped (.builder (.group 0)) := by
  have hplain (form : CriterionForm) (hform : (Form.criterion form).keptKinds = []) :
      (Value.record (.criterion form) []).TypedCriterion :=
    ⟨⟨_, _, rfl⟩, Value.typed_record (hform ▸ .nil) rfl (List.forall_mem_nil _)⟩
  have hkill : (Value.record (.subCommand .kill) []).TypedSubCommand :=
    ⟨⟨_, _, rfl⟩, Value.typed_record .nil rfl (List.forall_mem_nil _)⟩
  refine ⟨Store.wellTyped_builder ⟨_, rfl, List.forall_mem_singleton.mpr hkill, ?_⟩,
    Store.wellTyped_builder ⟨_, rfl, List.forall_mem_singleton.mpr (hplain .floating rfl)⟩⟩
  rintro c ⟨⟩
  exact ⟨_, rfl, List.forall_mem_singleton.mpr (hplain .tiling rfl)⟩

theorem lidAndRule_typed : ∀ w ∈ lidAndRule, w.TypedIn (Session.start.after ruleParts).store := by
  refine List.forall_mem_cons.mpr ⟨⟨?_, ?_, ?_⟩, List.forall_mem_singleton.mpr ⟨?_, ?_, ?_⟩⟩
  · simp [before, after, noSwitchFlags, Store.Holds, Store.HoldsAll]
  · simpa [before, after, Store.WellTyped, Value.Typed] using Form.typed_defaults.2.2.1
  · intro command hcommand
    exact .cons ⟨_, List.mem_cons_self, rfl⟩ (.cons ⟨_, List.mem_cons_self, rfl⟩ (.cons hcommand
      (.cons ⟨_, List.mem_cons_self, _, rfl⟩ .nil)))
  · exact List.forall_mem_singleton.mpr Nat.zero_lt_two
  · exact List.forall_mem_singleton.mpr ruleParts_typed.2
  · intro command hcommand
    exact .cons ⟨0, rfl⟩ (.cons hcommand .nil)

theorem lidAndRule_keep_text : ∃ kept s',
    (entry (.builder (.unit 0))).run (Session.start.after ruleParts).store = .ok kept s' ∧
    kept.commandText s'.texts = .ok "[tiling]kill" ∧ (entry kept).run s' = .ok kept s' ∧
    ∃ r t, (nest lidAndRule (.builder (.unit 0))).run (Session.start.after ruleParts).store = .ok r t ∧
      r.commandText t.texts = .ok "bindswitch    lid:on for_window [floating] [tiling]kill" := by
  have hwf := (Session.after_wellFormed Session.wellFormed_start ruleParts).store
  obtain ⟨text, kept, s', hrun, htext, -, hown, -, hagain, -, haround⟩ :=
    entry_keeps_text (x := .builder (.unit 0)) hwf Nat.zero_lt_one (.inl (.inl ⟨0, rfl⟩)) ruleParts_typed.1
  have hnot : ¬ (Value.builder (.unit 0)).IsText := by
    rintro (⟨_, ⟨⟩⟩ | ⟨_, ⟨⟩⟩)
  obtain rfl : "[tiling]kill" = text := Except.ok.inj (hown hnot).1
  obtain ⟨fronts, r, t, hnest, hfronts, hwhole⟩ := haround _ _ lidAndRule_typed
  have hwritten : lidAndRule.mapM (front (Session.start.after ruleParts).store.texts) =
      .ok ["bindswitch    lid:on ", "for_window [floating] "] := by
    with_unfolding_all rfl
  obtain rfl := Except.ok.inj (hwritten.symm.trans hfronts)
  exact ⟨kept, s', hrun, htext, hagain, r, t, hnest, hwhole⟩

end Building

end SwayControl
