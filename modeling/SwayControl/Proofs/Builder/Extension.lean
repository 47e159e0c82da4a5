import SwayControl.Builder.Batch
import SwayControl.Proofs.Success

/-!
How a text follows when a part comes at the end: a clause opens its bracket again, a unit and a batch
put their separator between what was there and what is new. These are the laws by which the store
extends texts without writing them anew.
-/

namespace SwayControl

/-- A unit ready for one more sub-command: a separator stands behind those it has. -/
def TargetedUnit.separated (u : TargetedUnit) : TargetedUnit :=
  if u.commands.isEmpty then u else { u with text := u.text ++ subCommandSeparator }

/-- A batch ready for one more command: a separator stands behind those it has. -/
def Batch.separated (b : Batch) : Batch :=
  if b.commands.isEmpty then b else { b with text := b.text ++ commandSeparator }

@[simp] theorem TargetedUnit.separated_clause (u : TargetedUnit) :
    u.separated.clause = u.clause := by
  unfold separated; split <;> rfl

@[simp] theorem TargetedUnit.separated_commands (u : TargetedUnit) :
    u.separated.commands = u.commands := by
  unfold separated; split <;> rfl

@[simp] theorem TargetedUnit.separated_frozen (u : TargetedUnit) :
    u.separated.frozen = u.frozen := by
  unfold separated; split <;> rfl

@[simp] theorem Batch.separated_commands (b : Batch) : b.separated.commands = b.commands := by
  unfold separated; split <;> rfl

/-- Behind a separator comes the rest of the text. -/
theorem Batch.separated_text (b : Batch) : ∃ rest, b.separated.text = b.text ++ rest := by
  unfold separated
  split
  · exact ⟨"", String.append_empty.symm⟩
  · exact ⟨commandSeparator, rfl⟩

theorem intercalate_concat {separator t : String} {ts : List String} (hts : ts ≠ []) :
    separator.intercalate (ts ++ [t]) = separator.intercalate ts ++ separator ++ t := by
  rw [String.intercalate_append_of_ne_nil hts (List.cons_ne_nil t []),
    String.intercalate_singleton]

theorem clauseText_singleton {value : Value} {criterion : Criterion}
    (h : value.readCriterion = .ok criterion) :
    clauseText [value] = .ok (bracketed [criterion.render]) := by
  simp only [clauseText, List.mapM_cons, h, List.mapM_nil]
  rfl

/-- The closing bracket of a clause is its last character, so a criterion goes in front of it. -/
theorem extendClause_bracketed {written : List String} (hwritten : written ≠ []) (text : String) :
    extendClause (bracketed written) text = bracketed (written ++ [text]) := by
  have hinner : (bracketed written).toList.dropLast = ("[" ++ spaced written).toList := by
    have hlast : ("]" : String).toList = [']'] := by simp
    rw [bracketed, String.toList_append, hlast, List.dropLast_concat]
  rw [extendClause, hinner, String.ofList_toList]
  simp only [bracketed, spaced, intercalate_concat hwritten, String.append_assoc]

/-- A clause with one more criterion is the clause extended by it. -/
theorem clauseText_concat {criteria : List Value} {text : String} {value : Value}
    {criterion : Criterion} (htext : clauseText criteria = .ok text) (hne : criteria ≠ [])
    (hvalue : value.readCriterion = .ok criterion) :
    clauseText (criteria ++ [value]) = .ok (extendClause text criterion.render) := by
  unfold clauseText at htext ⊢
  cases hread : criteria.mapM Value.readCriterion with
  | error refusal => simp [hread, Functor.map, Except.map] at htext
  | ok read =>
      rw [hread] at htext
      have hne' : read.map Criterion.render ≠ [] :=
        fun h => hne ((mapM_ok_eq_nil_iff hread).mp (List.map_eq_nil_iff.mp h))
      cases htext
      rw [mapM_concat_ok hread hvalue, extendClause_bracketed hne']
      simp only [Functor.map, Except.map, List.map_append, List.map_cons, List.map_nil]

/-- The text of a unit is that of its clause and then its sub-commands with separators. -/
theorem unitText_of_written {texts : Ref → String} {clause : Option Nat} {commands : List Value}
    {written : List String}
    (h : (commands.mapM fun command => SubCommand.render <$> command.readSubCommand) =
      Except.ok written) :
    unitText texts clause commands =
      .ok (clause.elim "" (fun c => texts (.group c)) ++
        subCommandSeparator.intercalate written) := by
  simp only [unitText, h]
  rfl

/-- A unit with one more sub-command is the unit with a separator and then that sub-command. -/
theorem unitText_concat {texts : Ref → String} {u : TargetedUnit} {value : Value}
    {command : SubCommand} (htext : unitText texts u.clause u.commands = .ok u.text)
    (hvalue : value.readSubCommand = .ok command) :
    unitText texts u.clause (u.commands ++ [value]) =
      .ok (u.separated.text ++ command.render) := by
  cases hread : u.commands.mapM fun command => SubCommand.render <$> command.readSubCommand with
  | error refusal =>
      simp only [unitText, hread] at htext
      cases htext
  | ok written =>
      have hlast : (SubCommand.render <$> value.readSubCommand) = Except.ok command.render := by
        rw [hvalue]; rfl
      rw [unitText_of_written (mapM_concat_ok hread hlast)]
      rw [unitText_of_written hread] at htext
      have hu := Except.ok.inj htext
      by_cases hcommands : u.commands = []
      · have hnil : written = [] := (mapM_ok_eq_nil_iff hread).mpr hcommands
        simp [TargetedUnit.separated, hcommands, ← hu, hnil]
      · have hne : written ≠ [] := mt (mapM_ok_eq_nil_iff hread).mp hcommands
        simp [TargetedUnit.separated, hcommands, ← hu, intercalate_concat hne, String.append_assoc]

/-- A batch with one more command is the batch with a separator and then that command. -/
theorem batchText_concat {texts : Ref → String} {b : Batch} {entry : Value} {text : String}
    (htext : batchText texts b.commands = .ok b.text)
    (hentry : entry.commandText texts = .ok text) :
    batchText texts (b.commands ++ [entry]) = .ok (b.separated.text ++ text) := by
  unfold batchText at htext ⊢
  cases hread : b.commands.mapM (Value.commandText texts) with
  | error refusal => simp [hread, Functor.map, Except.map] at htext
  | ok written =>
      rw [hread] at htext
      have hb : commandSeparator.intercalate written = b.text := Except.ok.inj htext
      rw [mapM_concat_ok hread hentry]
      simp only [Functor.map, Except.map, Except.ok.injEq]
      by_cases hcommands : b.commands = []
      · have hnil : written = [] := (mapM_ok_eq_nil_iff hread).mpr hcommands
        simp [Batch.separated, hcommands, ← hb, hnil]
      · have hne : written ≠ [] := mt (mapM_ok_eq_nil_iff hread).mp hcommands
        simp [Batch.separated, hcommands, ← hb, intercalate_concat hne]

end SwayControl
