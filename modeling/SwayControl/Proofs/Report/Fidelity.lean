import SwayControl.Proofs.Config.Flags
import SwayControl.Proofs.Service.Containment
import SwayControl.Proofs.Text.Shown
import Mathlib.Data.List.DropRight

/-!
How faithful the printed text of a batch is. What is printed passes a terminal on the way and loses
what that cannot show, line breaks at the end, and control sequences; what is run is sent as it is.
-/

namespace SwayControl

/-- A text that can be printed and piped on unchanged. -/
structure Text.Plain (text : String) : Prop where
  shown : ∀ c ∈ text.toList, c ≠ '\t' ∧ Text.isDropped c = false
  unbroken : text.toList.getLast? ≠ some '\n'
  noSequence : ¬Text.HasSequence text.toList

namespace Report

theorem toList_withoutLastBreaks (text : String) :
    (withoutLastBreaks text).toList = text.toList.rdropWhile (· == '\n') := String.toList_ofList

theorem withoutLastBreaks_prefix (text : String) :
    (withoutLastBreaks text).toList <+: text.toList := by
  rw [toList_withoutLastBreaks]
  exact List.rdropWhile_prefix _ _

/-- Only a text with a line break at its end loses any. -/
theorem withoutLastBreaks_eq_self_iff {text : String} :
    withoutLastBreaks text = text ↔ text.toList.getLast? ≠ some '\n' := by
  rw [← String.toList_inj, toList_withoutLastBreaks, List.rdropWhile_eq_self_iff]
  cases text.toList using List.reverseRecOn <;> simp

end Report

/-- A text comes off a terminal and onto a stream unchanged just where it is plain. -/
theorem streamLine_shown_eq_iff {text : String} :
    streamLine (Report.withoutLastBreaks (Text.onTerminal text)) = text ++ "\n" ↔
      Text.Plain text := by
  constructor
  · intro h
    have hline : Text.withoutSequences
        ((Report.withoutLastBreaks (Text.onTerminal text)).toList ++ ['\n']) =
          text.toList ++ ['\n'] := by
      simpa [streamLine] using congrArg String.toList h
    have hsublist := Text.withoutSequences_sublist
      ((Report.withoutLastBreaks (Text.onTerminal text)).toList ++ ['\n'])
    rw [hline] at hsublist
    have hkept : ∀ c ∈ text.toList, c ≠ '\t' ∧ Text.isDropped c = false := by
      intro c hc
      rcases List.mem_append.mp (hsublist.subset (List.mem_append_left _ hc)) with hshown | hbreak
      · exact Text.mem_onTerminal ((Report.withoutLastBreaks_prefix _).subset hshown)
      · obtain rfl := List.mem_singleton.mp hbreak
        decide
    rw [Text.onTerminal_eq_self hkept] at hline hsublist
    -- Nothing is longer behind a step than before it, so none of them took a character away.
    have hlength : text.toList.length ≤ (Report.withoutLastBreaks text).toList.length := by
      simpa using hsublist.length_le
    have hsame : Report.withoutLastBreaks text = text :=
      String.toList_inj.mp ((Report.withoutLastBreaks_prefix text).eq_of_length_le hlength)
    rw [hsame] at hline
    refine ⟨hkept, Report.withoutLastBreaks_eq_self_iff.mp hsame, fun hsequence => ?_⟩
    have hshorter :=
      Text.length_withoutSequences_lt (Text.hasSequence_append_break_iff.mpr hsequence)
    rw [hline] at hshorter
    exact lt_irrefl _ hshorter
  · rintro ⟨hshown, hunbroken, hsequence⟩
    rw [Text.onTerminal_eq_self hshown, Report.withoutLastBreaks_eq_self_iff.mpr hunbroken, streamLine,
      Text.withoutSequences_eq_self (mt Text.hasSequence_append_break_iff.mp hsequence)]
    simp

/-- A squeezed text is plain if it has no bell, no backspace and no control sequence. -/
theorem Text.plain_squeeze_iff {text : String} : Text.Plain (Text.squeeze text) ↔
    (∀ c ∈ (Text.squeeze text).toList, c.toNat ≠ 7 ∧ c.toNat ≠ 8) ∧
      ¬Text.HasSequence (Text.squeeze text).toList := by
  constructor
  · rintro ⟨hshown, -, hsequence⟩
    refine ⟨fun c hc => ?_, hsequence⟩
    have hkept := (hshown c hc).2
    simp only [Text.isDropped, List.contains_eq_mem, decide_eq_false_iff_not, List.mem_cons] at hkept
    omega
  · rintro ⟨hcontrols, hsequence⟩
    refine ⟨fun c hc => ?_, fun hlast => ?_, hsequence⟩
    · rcases Text.mem_squeeze hc with rfl | hblank
      · decide
      · refine ⟨fun htab => absurd hblank (by rw [htab]; decide), ?_⟩
        obtain ⟨hbell, hbackspace⟩ := hcontrols c hc
        by_contra hdropped
        have hrange : 9 ≤ c.toNat ∧ c.toNat ≤ 13 := by
          simp only [Text.isDropped, List.contains_eq_mem, List.mem_cons, List.not_mem_nil, or_false,
            decide_eq_false_iff_not, not_not] at hdropped
          omega
        simp [Text.isBlank, hrange] at hblank
    · rcases Text.mem_squeeze (List.mem_of_getLast? hlast) with hspace | hblank
      · exact absurd hspace (by decide)
      · exact absurd hblank (by decide)

namespace Dispatch

/-- What writing a batch prints if nothing else is asked for. -/
def printed (order : Order) : String :=
  (OutputMode.emit ⟨false, false, false⟩ (render order)).output

/-- A batch is printed as its text just where that is plain. -/
theorem printed_eq_text_iff {order : Order} :
    printed order = order.text ++ "\n" ↔ Text.Plain order.text := by
  have hprinted : printed order =
      streamLine (Report.withoutLastBreaks (Text.onTerminal order.text)) := rfl
  rw [hprinted, streamLine_shown_eq_iff]

/-- A batch is sent as its text, in one frame, or not at all. -/
theorem sent_of_run {order : Order} (hcount : order.count ≠ 0) (plan : ClientPlan) (peers : List Peer) :
    ∀ s ∈ (run order false plan peers).sockets,
      s.sent = [] ∨ Frame.pack runCommandType order.text.toUTF8.toList = .ok s.sent := by
  intro s hs
  obtain ⟨unread, hsockets⟩ := sockets_run hcount plan peers
  rw [hsockets] at hs
  rw [((plan.remains_spec _ _ _ _).2 s hs).2]
  exact ClientPlan.sends_framed

end Dispatch

/-- The text of a batch is printed character for character just where it is plain, while it is
always sent so. The program prints the commands of its words alike. -/
theorem printed_as_sent_iff (b : Batch) (normalize : Bool) :
    (Dispatch.printed (b.order normalize) = (b.order normalize).text ++ "\n" ↔
      Text.Plain (b.order normalize).text) ∧
    (normalize = true → (Text.Plain (b.order normalize).text ↔
      (∀ c ∈ (b.order normalize).text.toList, c.toNat ≠ 7 ∧ c.toNat ≠ 8) ∧
        ¬Text.HasSequence (b.order normalize).text.toList)) ∧
    (b.commands ≠ [] → ∀ plan peers,
      ∀ s ∈ (Dispatch.run (b.order normalize) false plan peers).sockets,
        s.sent = [] ∨
          Frame.pack runCommandType (b.order normalize).text.toUTF8.toList = .ok s.sent) ∧
    ∀ commands settings s peers, settings.outputMode = ⟨false, false, false⟩ →
      let order := Order.ofTexts commands settings.normalize
      ((Action.render commands).perform settings s peers).emission =
          ⟨0, Dispatch.printed order, ""⟩ ∧
        (Dispatch.printed order = order.text ++ "\n" ↔ Text.Plain order.text) := by
  refine ⟨Dispatch.printed_eq_text_iff, ?_, fun hne plan peers => ?_, ?_⟩
  · rintro rfl
    exact Text.plain_squeeze_iff
  · exact Dispatch.sent_of_run (mt List.length_eq_zero_iff.mp hne) plan peers
  · intro commands settings s peers hmode
    refine ⟨?_, Dispatch.printed_eq_text_iff⟩
    simp only [Action.perform, Action.serve, hmode]
    rfl

theorem killBatch_printed_as_sent :
    Dispatch.printed (killBatch.order true) = (killBatch.order true).text ++ "\n" ∧
      killBatch.commands ≠ [] ∧
      (∀ s ∈ (Dispatch.run (killBatch.order true) false pathPlan [interruptedPeer]).sockets,
        s.sent = [] ∨ Frame.pack runCommandType (killBatch.order true).text.toUTF8.toList = .ok s.sent) ∧
      unsetSettings.outputMode = ⟨false, false, false⟩ ∧
      ((Action.render ["kill"]).perform unsetSettings quietSurroundings []).emission =
        ⟨0, Dispatch.printed (Order.ofTexts ["kill"] false), ""⟩ := by
  obtain ⟨hprinted, hplain, hsent, hperformed⟩ := printed_as_sent_iff killBatch true
  have hne : killBatch.commands ≠ [] := List.cons_ne_nil _ _
  have htext : (killBatch.order true).text.toList = ['k', 'i', 'l', 'l'] := by decide +kernel
  have hcontrols : ∀ c ∈ (killBatch.order true).text.toList, c.toNat ≠ 7 ∧ c.toNat ≠ 8 := by
    simp [htext]
  have hsequence : ¬Text.HasSequence (killBatch.order true).text.toList :=
    Text.not_hasSequence_of_unescaped (by simp [htext, Text.escapeChar])
  exact ⟨hprinted.mpr ((hplain rfl).mpr ⟨hcontrols, hsequence⟩), hne, hsent hne _ _, rfl,
    (hperformed _ _ _ _ rfl).1⟩

/-- A batch of one command with a tab. -/
def tabBatch : Batch := ⟨[.record .raw [.text "nop a\tb"]], "nop a\tb"⟩

/-- A tab is printed as spaces. -/
theorem tabBatch_printed_apart :
    Dispatch.printed (tabBatch.order false) = "nop a   b\n" ∧
      (tabBatch.order false).text ++ "\n" = "nop a\tb\n" ∧
      Dispatch.printed (tabBatch.order false) ≠ (tabBatch.order false).text ++ "\n" := by
  decide +kernel

end SwayControl
