import SwayControl.Proofs.Builder.Collection
import SwayControl.Proofs.Builder.Separator
import SwayControl.Proofs.Report.Fidelity

/-!
Previews of commands. Commands give one order, whether they are given as a batch or as the values
themselves; writing them, running them dry and running them work on the text of that order. A preview in
the quiet form is that text but for its control sequences, which are sent but not shown.
-/

namespace SwayControl

/-- A line on a stream is a text as it is just where that has no control sequence. -/
theorem streamLine_eq_iff {text : String} :
    streamLine text = text ++ "\n" ↔ ¬Text.HasSequence text.toList := by
  have hline : streamLine text = text ++ "\n" ↔
      Text.withoutSequences (text.toList ++ ['\n']) = text.toList ++ ['\n'] := by
    rw [← String.toList_inj, streamLine, String.toList_ofList, String.toList_append]
    rfl
  rw [hline, ← Text.hasSequence_append_break_iff]
  constructor
  · intro hsame hsequence
    have hshorter := Text.length_withoutSequences_lt hsequence
    rw [hsame] at hshorter
    exact lt_irrefl _ hshorter
  · exact Text.withoutSequences_eq_self

theorem streamLine_ne_empty (text : String) : streamLine text ≠ "" := by
  intro hempty
  have hbreak : '\n' ∈ Text.withoutSequences (text.toList ++ ['\n']) :=
    Text.break_mem_withoutSequences (by simp)
  have hnil : Text.withoutSequences (text.toList ++ ['\n']) = [] := by
    simpa [streamLine] using hempty
  rw [hnil] at hbreak
  cases hbreak

/-- Whether commands give an order in a store. -/
def Submission.Gives (given : Submission) (s : Store) (normalize : Bool) (order : Order) : Prop :=
  ∃ s', (given.order normalize).run s = .ok order s'

/-- What a result tells of an order that is not run: that all is well, its text and the number of its
commands, and in the quiet form the line of its text. -/
structure ServiceResult.Previews (r : ServiceResult) (order : Order) : Prop where
  ok : r.ok = true
  command : r.data.lookup "command" = some (.text order.text)
  count : r.data.lookup "count" = some (.int order.count)
  quiet : ∀ verbose, OutputMode.emit ⟨false, true, verbose⟩ r = ⟨0, streamLine order.text, ""⟩

/-- What is certain of an order that was run: its text went out in one message if any did, and the report on
its result goes to one stream and agrees with the status. -/
structure Served.Executes (served : Served) (order : Order) : Prop where
  single : served.sockets.length ≤ 1
  sent : ∀ s ∈ served.sockets,
    s.sent = [] ∨ Frame.pack runCommandType order.text.toUTF8.toList = .ok s.sent
  succeeded : ∀ r, served.result = .ok r → r.ok = true → ∀ mode : OutputMode,
    (mode.emit r).status = 0 ∧ (mode.emit r).output ≠ ""
  failed : ∀ r, served.result = .ok r → r.ok = false → ∀ mode : OutputMode,
    (mode.emit r).status = 1 ∧ (mode.emit r).output = ""

namespace Dispatch

variable {order : Order}

theorem render_previews (order : Order) : (render order).Previews order :=
  ⟨rfl, rfl, rfl, fun _ => rfl⟩

theorem run_dry_previews (hcount : order.count ≠ 0) :
    ∃ r : ServiceResult, r.Previews order ∧
      ∀ plan peers, run order true plan peers = ⟨.ok r, [], []⟩ :=
  ⟨_, ⟨rfl, rfl, rfl, fun _ => rfl⟩, run_dry hcount⟩

theorem run_executes (hcount : order.count ≠ 0) (plan : ClientPlan) (peers : List Peer) :
    (run order false plan peers).Executes order where
  single := by
    obtain ⟨unread, hsockets⟩ := sockets_run hcount plan peers
    rw [hsockets]
    exact (plan.remains_spec _ _ _ _).1
  sent := sent_of_run hcount plan peers
  succeeded r _ hok mode := by
    have hemit : mode.emit r = ⟨0, streamLine (mode.format r), _⟩ := if_pos hok
    rw [hemit]
    exact ⟨rfl, streamLine_ne_empty _⟩
  failed r _ hfailed mode := by
    have hemit : mode.emit r = ⟨1, "", streamLine (mode.format r)⟩ :=
      if_neg (by rw [hfailed]; exact Bool.false_ne_true)
    rw [hemit]
    exact ⟨rfl, rfl⟩

end Dispatch

namespace Session

open Building

/-- In every state that an accepted script leads to, well-typed commands give one order: given as they
are, as the batch that is built of them, and as any batch whose entries have their texts. Writing that
order and running it dry tell the same of it, and in the quiet form print its text and a line break just
where it has no control sequence. If running it sends anything, it sends the text in one message; and if the
text is not too long, it ends in a result unless its visit hands a fault on. -/
theorem previews_what_is_run {script : List Step} (hscript : Along Accepts start script)
    {commands : List Value} (hne : commands ≠ [])
    (hcommands : ∀ v ∈ commands, (start.after script).store.Holds v ∧ Kind.command.Fits v ∧
      (start.after script).store.WellTyped v) (normalize : Bool) :
    let s := (start.after script).store
    ∃ texts, commands.mapM (Value.asCommand s.texts) = .ok texts ∧
      let order := Order.ofTexts texts normalize
      order.count = commands.length ∧
      (Submission.values commands).Gives s normalize order ∧
      (∃ i s', (batchOf commands).run s = .ok i s' ∧
        (Submission.batch i).Gives s' normalize order) ∧
      (∀ i b, s.batches[i]? = some b → b.commands.mapM (Value.commandText s.texts) = .ok texts →
        (Submission.batch i).Gives s normalize order) ∧
      (Dispatch.render order).Previews order ∧
      (∃ r : ServiceResult, r.Previews order ∧
        ∀ plan peers, Dispatch.run order true plan peers = ⟨.ok r, [], []⟩) ∧
      (streamLine order.text = order.text ++ "\n" ↔ ¬Text.HasSequence order.text.toList) ∧
      ∀ plan peers,
        (Dispatch.run order false plan peers).Executes order ∧
        (order.text.utf8ByteSize < Frame.wordBound →
          ∀ fault, (Dispatch.run order false plan peers).result = .error fault ↔
            plan.HandsOn (Peer.first peers) runCommandType fault) := by
  intro s
  have hwf : s.WellFormed := (after_wellFormed wellFormed_start script).store
  obtain ⟨texts, i, s', hbatch, htexts, -, hcollects⟩ := batchOf_collects hwf hcommands
  have hlength : texts.length = commands.length := mapM_ok_length htexts
  have hcount : (Order.ofTexts texts normalize).count ≠ 0 :=
    fun hzero => hne (List.length_eq_zero_iff.mp (hlength.symm.trans hzero))
  have hgiven := hcollects.order normalize
  refine ⟨texts, htexts, hlength, ⟨s', ?_⟩, ⟨i, s', hbatch, s', hgiven⟩, ?_, ?_, ?_,
    streamLine_eq_iff, ?_⟩
  · -- values are made a batch first, so that they are given as that batch is
    have hvalues : ((Submission.values commands).order normalize).run s =
        ((Submission.batch i).order normalize).run s' := run_bind_ok hbatch
    exact hvalues.trans hgiven
  · intro j b hb hentries
    exact ⟨s, ((after_batchesInStep hscript).collects hb hentries).order normalize⟩
  · exact Dispatch.render_previews _
  · exact Dispatch.run_dry_previews hcount
  · intro plan peers
    refine ⟨Dispatch.run_executes hcount plan peers, fun hsize fault => ?_⟩
    obtain ⟨frame, hframe⟩ := Frame.pack_text hsize
    exact Dispatch.run_eq_error_iff hcount hframe

/-- A text and a sub-command, given as values. -/
theorem reload_and_kill_previewed :
    Along Accepts start [] ∧
      (∀ v ∈ [Value.text "reload", .record (.subCommand .kill) []],
        Store.empty.Holds v ∧ Kind.command.Fits v ∧ Store.empty.WellTyped v) ∧
      (Submission.values [.text "reload", .record (.subCommand .kill) []]).Gives .empty false
        ⟨"reload;kill", 2⟩ ∧
      OutputMode.emit ⟨false, true, false⟩ (Dispatch.render ⟨"reload;kill", 2⟩) =
        ⟨0, "reload;kill\n", ""⟩ := by
  have hcommands : ∀ v ∈ [Value.text "reload", .record (.subCommand .kill) []],
      (start.after []).store.Holds v ∧ Kind.command.Fits v ∧ (start.after []).store.WellTyped v := by
    refine List.forall_mem_cons.mpr ⟨⟨trivial, .inr (.inl (.inl ⟨_, rfl⟩)), trivial⟩,
      List.forall_mem_singleton.mpr ⟨trivial, .inr (.inr ⟨_, _, rfl⟩), ?_⟩⟩
    exact Value.typed_record .nil rfl fun _ h => absurd h List.not_mem_nil
  have hscript : Along Accepts start [] := trivial
  obtain ⟨texts, htexts, -, hgiven, -, -, hrender, -, hplain, -⟩ :=
    previews_what_is_run hscript (List.cons_ne_nil _ _) hcommands false
  obtain rfl : ["reload", "kill"] = texts := Except.ok.inj htexts
  have horder : Order.ofTexts ["reload", "kill"] false = ⟨"reload;kill", 2⟩ := by decide
  rw [horder] at hgiven hrender hplain
  refine ⟨hscript, hcommands, hgiven, (hrender.quiet false).trans ?_⟩
  have hunescaped : Text.escapeChar ∉ "reload;kill".toList := by decide
  rw [hplain.mpr (Text.not_hasSequence_of_unescaped hunescaped)]
  rfl

/-- What is sent of a command with a control sequence is not what its preview shows. -/
theorem coloured_command_previewed_apart :
    let order := Order.ofTexts ["nop \x1b[31mred"] false
    (Submission.values [.text "nop \x1b[31mred"]).Gives .empty false order ∧
      OutputMode.emit ⟨false, true, false⟩ (Dispatch.render order) = ⟨0, "nop red\n", ""⟩ ∧
      order.text ++ "\n" = "nop \x1b[31mred\n" ∧
      (OutputMode.emit ⟨false, true, false⟩ (Dispatch.render order)).output ≠ order.text ++ "\n" := by
  refine ⟨⟨_, rfl⟩, ?_⟩
  decide +kernel

end Session

end SwayControl
