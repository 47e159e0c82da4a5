import SwayControl.Proofs.Builder.Citation
import SwayControl.Proofs.Grammar.Agreement

/-!
Well-typed commands that are alike are written alike, bindings and rules nested to any depth among them.
Whatever is read from a record is of the form of the record, so every form is written by its own part of
the renderer.
-/

namespace SwayControl

/-- Which form a top-level command is of. -/
def TopLevel.form : TopLevel → TopLevelForm
  | .assignToWorkspace .. => .assignToWorkspace
  | .assignToOutput .. => .assignToOutput
  | .bindsym .. => .bindsym
  | .bindcode .. => .bindcode
  | .bindswitch .. => .bindswitch
  | .clientBackground .. => .clientBackground
  | .clientColors .. => .clientColors
  | .defaultBorder .. => .defaultBorder
  | .defaultFloatingBorder .. => .defaultFloatingBorder
  | .exec .. => .exec
  | .execAlways .. => .execAlways
  | .floatingMaximumSize .. => .floatingMaximumSize
  | .floatingMinimumSize .. => .floatingMinimumSize
  | .floatingModifier .. => .floatingModifier
  | .focusFollowsMouse .. => .focusFollowsMouse
  | .focusOnWindowActivation .. => .focusOnWindowActivation
  | .focusWrapping .. => .focusWrapping
  | .font .. => .font
  | .forceDisplayUrgencyHint .. => .forceDisplayUrgencyHint
  | .titlebarBorderThickness .. => .titlebarBorderThickness
  | .titlebarPadding .. => .titlebarPadding
  | .forWindow .. => .forWindow
  | .defaultGaps .. => .defaultGaps
  | .hideEdgeBorders .. => .hideEdgeBorders
  | .input .. => .input
  | .seat .. => .seat
  | .output .. => .output
  | .smartBorders .. => .smartBorders
  | .smartGaps .. => .smartGaps
  | .mode .. => .mode
  | .defineMode .. => .defineMode
  | .mouseWarping .. => .mouseWarping
  | .noFocus .. => .noFocus
  | .popupDuringFullscreen .. => .popupDuringFullscreen
  | .setVariable .. => .setVariable
  | .showMarks .. => .showMarks
  | .tilingDrag .. => .tilingDrag
  | .tilingDragThreshold .. => .tilingDragThreshold
  | .titleAlign .. => .titleAlign
  | .unbindswitch .. => .unbindswitch
  | .unbindsym .. => .unbindsym
  | .unbindcode .. => .unbindcode
  | .workspace .. => .workspace
  | .workspaceGaps .. => .workspaceGaps
  | .workspaceOutputs .. => .workspaceOutputs
  | .workspaceAutoBackAndForth .. => .workspaceAutoBackAndForth

/-- Which form a configuration line is of. -/
def ConfigLine.form : ConfigLine → ConfigLineForm
  | .bar .. => .bar
  | .defaultOrientation .. => .defaultOrientation
  | .includeFile .. => .includeFile
  | .swaybgCommand .. => .swaybgCommand
  | .swaynagCommand .. => .swaynagCommand
  | .workspaceLayout .. => .workspaceLayout
  | .xwayland .. => .xwayland

section

variable {form : CriterionForm} {fields : List Value}

/-- What is read from a record is of the form of the record. -/
theorem form_of_readCriterion :
    Gives (Value.record (.criterion form) fields).readCriterion fun c => c.form = form := by
  cases form with
  | floating | tiling =>
      cases fields with
      | nil => exact gives_pure rfl
      | cons _ _ => exact gives_refuse _ _
  | property key =>
      rcases fields with _ | ⟨value, _ | _⟩
      · exact gives_refuse _ _
      · exact gives_map fun _ => rfl
      · exact gives_refuse _ _

theorem form_of_readSubCommandFields {form : SubCommandForm} :
    Gives (Value.readSubCommandFields form fields) fun c => c.form = form := by
  rcases fields with _ | ⟨_, _ | ⟨_, _ | ⟨_, _ | ⟨_, _ | ⟨_, _⟩⟩⟩⟩⟩ <;> cases form <;>
    first
    | exact gives_pure rfl
    | exact gives_refuse _ _
    | exact gives_map fun _ => rfl
    | exact gives_bind fun _ => gives_bind fun _ => gives_pure rfl
    | exact gives_bind fun _ => gives_bind fun _ => gives_bind fun _ => gives_bind fun _ =>
        gives_pure rfl

theorem form_of_readTopLevelFields {texts : Ref → String} {command : Reading String}
    {form : TopLevelForm} :
    Gives (Value.readTopLevelFields texts command form fields) fun c => c.form = form := by
  rcases fields with _ | ⟨_, _ | ⟨_, _ | ⟨_, _ | ⟨_, _ | ⟨_, _ | ⟨_, _⟩⟩⟩⟩⟩⟩ <;> cases form <;>
    first
    | exact gives_pure rfl
    | exact gives_refuse _ _
    | exact gives_map fun _ => rfl
    | exact gives_bind fun _ => gives_bind fun _ => gives_pure rfl
    | exact gives_bind fun _ => gives_bind fun _ => gives_bind fun _ => gives_pure rfl
    | exact gives_bind fun _ => gives_bind fun _ => gives_bind fun _ => gives_bind fun _ =>
        gives_pure rfl

theorem form_of_readConfigLineFields {form : ConfigLineForm} :
    Gives (Value.readConfigLineFields form fields) fun c => c.form = form := by
  rcases fields with _ | ⟨_, _ | ⟨_, _ | ⟨_, _⟩⟩⟩ <;> cases form <;>
    first
    | exact gives_refuse _ _
    | exact gives_map fun _ => rfl
    | exact gives_bind fun _ => gives_bind fun _ => gives_pure rfl

end

variable {builder : Ref → Prop} {builders : Ref → Ref → Bool} {v w : Value} {vs ws : List Value}

namespace Matched

/-! ### Keys and flags -/

theorem readBindFlags (h : Matched builder builders (.record [.binding .bindFlags]) v w) :
    Agree Eq v.readBindFlags w.readBindFlags := by
  obtain ⟨form, hform, vs, ws, rfl, rfl, hfields⟩ := h.record
  obtain rfl := List.mem_singleton.mp hform
  obtain _ | ⟨wholeWindow, _ | ⟨border, _ | ⟨excludeTitleBar, _ | ⟨release, _ | ⟨locked, _ | ⟨toCode,
    _ | ⟨inputDevice, _ | ⟨noWarn, _ | ⟨noRepeat, _ | ⟨inhibited, _ | _⟩⟩⟩⟩⟩⟩⟩⟩⟩⟩ := hfields
  exact wholeWindow.readFlag.next fun _ => border.readFlag.next fun _ =>
    excludeTitleBar.readFlag.next fun _ => release.readFlag.next fun _ => locked.readFlag.next fun _ =>
      toCode.readFlag.next fun _ => inputDevice.readTextOptional.next fun _ =>
        noWarn.readFlag.next fun _ => noRepeat.readFlag.next fun _ => inhibited.readFlag.next fun _ =>
          agree_pure rfl

theorem readSwitchFlags (h : Matched builder builders (.record [.binding .switchFlags]) v w) :
    Agree Eq v.readSwitchFlags w.readSwitchFlags := by
  obtain ⟨form, hform, vs, ws, rfl, rfl, hfields⟩ := h.record
  obtain rfl := List.mem_singleton.mp hform
  obtain _ | ⟨locked, _ | ⟨noWarn, _ | ⟨reload, _ | _⟩⟩⟩ := hfields
  exact locked.readFlag.next fun _ => noWarn.readFlag.next fun _ => reload.readFlag.next fun _ =>
    agree_pure rfl

theorem readModifiers (h : Matched builder builders (.record [.binding .modifiers]) v w) :
    Agree Eq v.readModifiers w.readModifiers := by
  obtain ⟨form, hform, vs, ws, rfl, rfl, hfields⟩ := h.record
  obtain rfl := List.mem_singleton.mp hform
  obtain _ | ⟨mod1, _ | ⟨mod2, _ | ⟨mod3, _ | ⟨mod4, _ | ⟨shift, _ | ⟨control, _ | _⟩⟩⟩⟩⟩⟩ := hfields
  exact mod1.readFlag.next fun _ => mod2.readFlag.next fun _ => mod3.readFlag.next fun _ =>
    mod4.readFlag.next fun _ => shift.readFlag.next fun _ => control.readFlag.next fun _ =>
      agree_pure rfl

theorem readSymKey (h : Matched builder builders (.record [.binding .symKey]) v w) :
    Agree Eq v.readSymKey w.readSymKey := by
  obtain ⟨form, hform, vs, ws, rfl, rfl, hfields⟩ := h.record
  obtain rfl := List.mem_singleton.mp hform
  obtain _ | ⟨key, _ | ⟨modifiers, _ | ⟨group, _ | _⟩⟩⟩ := hfields
  exact key.readText.next fun _ => modifiers.readModifiers.next fun _ => group.readWord.next fun _ =>
    agree_pure rfl

theorem readCodeKey (h : Matched builder builders (.record [.binding .codeKey]) v w) :
    Agree Eq v.readCodeKey w.readCodeKey := by
  obtain ⟨form, hform, vs, ws, rfl, rfl, hfields⟩ := h.record
  obtain rfl := List.mem_singleton.mp hform
  obtain _ | ⟨code, _ | ⟨modifiers, _ | _⟩⟩ := hfields
  exact code.readInt.next fun _ => modifiers.readModifiers.next fun _ => agree_pure rfl

/-! ### Commands -/

theorem readArguments {kind : Kind} (h : Matched builder builders (.tuple kind) v w)
    (hkind : kind.isArgument = true) :
    Agree Eq (v.readItems Value.readArgument) (w.readItems Value.readArgument) :=
  h.readItems fun hitem => hitem.readArgument hkind

theorem readConfigLineFields {form : ConfigLineForm}
    (h : MatchedAll builder builders (Form.configLine form).keptKinds vs ws) :
    Agree Eq (Value.readConfigLineFields form vs) (Value.readConfigLineFields form ws) := by
  cases form with
  | bar =>
      obtain _ | ⟨identifier, _ | ⟨subcommands, _ | _⟩⟩ := h
      exact (identifier.readArgumentOptional rfl).next fun _ =>
        (subcommands.readArguments rfl).next fun _ => agree_pure rfl
  | includeFile | swaybgCommand | swaynagCommand =>
      obtain _ | ⟨text, _ | _⟩ := h
      exact text.readText.same fun _ => rfl
  | defaultOrientation | workspaceLayout | xwayland =>
      obtain _ | ⟨word, _ | _⟩ := h
      exact word.readWord.same fun _ => rfl

/-- The child border is looked at only after an indicator, which both have or neither. -/
theorem readClientColors
    (h : MatchedAll builder builders (Form.topLevel .clientColors).keptKinds vs ws) :
    Agree Eq (Value.record (.topLevel .clientColors) vs).readClientColors
      (Value.record (.topLevel .clientColors) ws).readClientColors := by
  obtain _ | ⟨state, _ | ⟨border, _ | ⟨background, _ | ⟨text, _ | ⟨indicator, _ | ⟨childBorder,
    _ | _⟩⟩⟩⟩⟩⟩ := h
  refine state.readWord.next fun _ => (border.readArgument rfl).next fun _ =>
    (background.readArgument rfl).next fun _ => (text.readArgument rfl).next fun _ =>
      (indicator.readArgumentOptional rfl).next fun _ => ?_
  rcases indicator.optional with ⟨rfl, rfl⟩ | indicator
  · exact agree_pure rfl
  · obtain ⟨_, -, _, _, rfl, rfl, -⟩ := indicator.record
    exact (childBorder.readArgumentOptional rfl).next fun _ => agree_pure rfl

variable {texts : Ref → String}
  (htexts : ∀ a b, builder a → builder b → builders a b = true → texts a = texts b)

include htexts

theorem readClause (h : Matched builder builders .group v w) :
    Agree Eq (v.readClause texts) (w.readClause texts) := by
  obtain ⟨i, rfl⟩ := h.fits
  obtain ⟨j, rfl⟩ := h.fits'
  exact agree_pure (htexts _ _ h.typed.ref h.typed'.ref (Value.alike_builder_iff.mp h.alike))

/-- Top-level commands that are alike are written alike if the commands that they run are. -/
theorem readTopLevelFields {form : TopLevelForm} {x y : Reading String}
    (h : MatchedAll builder builders (Form.topLevel form).keptKinds vs ws)
    (hcommand : form.embeds = true → Agree Eq x y) :
    Agree (fun a b => a.render = b.render) (Value.readTopLevelFields texts x form vs)
      (Value.readTopLevelFields texts y form ws) := by
  cases form with
  | assignToWorkspace | assignToOutput =>
      obtain _ | ⟨clause, _ | ⟨target, _ | _⟩⟩ := h
      exact (clause.readClause htexts).next fun _ => (target.readArgument rfl).next fun _ =>
        agree_pure rfl
  | noFocus =>
      obtain _ | ⟨clause, _ | _⟩ := h
      exact (clause.readClause htexts).same fun _ => rfl
  | forWindow =>
      obtain _ | ⟨clause, _ | ⟨command, _ | _⟩⟩ := h
      exact (clause.readClause htexts).next fun _ => (hcommand rfl).next fun _ => agree_pure rfl
  | bindsym =>
      obtain _ | ⟨key, _ | ⟨command, _ | ⟨flags, _ | _⟩⟩⟩ := h
      exact flags.readBindFlags.next fun _ => key.readSymKey.next fun _ =>
        (hcommand rfl).next fun _ => agree_pure rfl
  | bindcode =>
      obtain _ | ⟨key, _ | ⟨command, _ | ⟨flags, _ | _⟩⟩⟩ := h
      exact flags.readBindFlags.next fun _ => key.readCodeKey.next fun _ =>
        (hcommand rfl).next fun _ => agree_pure rfl
  | bindswitch =>
      obtain _ | ⟨switch, _ | ⟨state, _ | ⟨command, _ | ⟨flags, _ | _⟩⟩⟩⟩ := h
      exact flags.readSwitchFlags.next fun _ => switch.readWord.next fun _ =>
        state.readWord.next fun _ => (hcommand rfl).next fun _ => agree_pure rfl
  | clientBackground | workspace =>
      obtain _ | ⟨argument, _ | _⟩ := h
      exact (argument.readArgument rfl).same fun _ => rfl
  | clientColors => exact (readClientColors h).same fun _ => rfl
  | defaultBorder | defaultFloatingBorder =>
      obtain _ | ⟨style, _ | _⟩ := h
      exact style.readBorderStyle.same fun _ => rfl
  | exec | execAlways | mode =>
      obtain _ | ⟨text, _ | _⟩ := h
      exact text.readText.same fun _ => rfl
  | floatingMaximumSize | floatingMinimumSize =>
      obtain _ | ⟨width, _ | ⟨height, _ | _⟩⟩ := h
      exact width.readInt.next fun _ => height.readInt.next fun _ => agree_pure rfl
  | floatingModifier =>
      obtain _ | ⟨modifier, _ | ⟨mode, _ | _⟩⟩ := h
      exact (modifier.readArgumentOptional rfl).next fun _ => mode.readWord.next fun _ =>
        agree_pure rfl
  | focusFollowsMouse | focusOnWindowActivation | focusWrapping | smartBorders | smartGaps
  | mouseWarping | popupDuringFullscreen | showMarks | tilingDrag | titleAlign
  | workspaceAutoBackAndForth =>
      obtain _ | ⟨word, _ | _⟩ := h
      exact word.readWord.same fun _ => rfl
  | font =>
      obtain _ | ⟨font, _ | _⟩ := h
      refine font.readFont.map fun a b hab => ?_
      simp only [TopLevel.render, hab]
  | forceDisplayUrgencyHint | titlebarBorderThickness | tilingDragThreshold =>
      obtain _ | ⟨amount, _ | _⟩ := h
      exact amount.readInt.same fun _ => rfl
  | titlebarPadding =>
      obtain _ | ⟨horizontal, _ | ⟨vertical, _ | _⟩⟩ := h
      exact horizontal.readInt.next fun _ => (vertical.readArgumentOptional rfl).next fun _ =>
        agree_pure rfl
  | defaultGaps =>
      obtain _ | ⟨side, _ | ⟨amount, _ | _⟩⟩ := h
      exact side.readWord.next fun _ => amount.readInt.next fun _ => agree_pure rfl
  | hideEdgeBorders =>
      obtain _ | ⟨mode, _ | ⟨i3, _ | _⟩⟩ := h
      exact mode.readWord.next fun _ => i3.readFlag.next fun _ => agree_pure rfl
  | input | seat | output =>
      obtain _ | ⟨name, _ | ⟨settings, _ | _⟩⟩ := h
      exact name.readText.next fun _ => (settings.readArguments rfl).next fun _ => agree_pure rfl
  | defineMode =>
      obtain _ | ⟨name, _ | ⟨commands, _ | ⟨pangoMarkup, _ | _⟩⟩⟩ := h
      exact name.readText.next fun _ => (commands.readArguments rfl).next fun _ =>
        pangoMarkup.readFlag.next fun _ => agree_pure rfl
  | setVariable =>
      obtain _ | ⟨name, _ | ⟨value, _ | _⟩⟩ := h
      exact name.readText.next fun _ => value.readText.next fun _ => agree_pure rfl
  | unbindswitch =>
      obtain _ | ⟨switch, _ | ⟨state, _ | _⟩⟩ := h
      exact switch.readWord.next fun _ => state.readWord.next fun _ => agree_pure rfl
  | unbindsym =>
      obtain _ | ⟨key, _ | ⟨flags, _ | _⟩⟩ := h
      exact key.readSymKey.next fun _ => flags.readBindFlags.next fun _ => agree_pure rfl
  | unbindcode =>
      obtain _ | ⟨key, _ | ⟨flags, _ | _⟩⟩ := h
      exact key.readCodeKey.next fun _ => flags.readBindFlags.next fun _ => agree_pure rfl
  | workspaceGaps =>
      obtain _ | ⟨workspace, _ | ⟨side, _ | ⟨amount, _ | _⟩⟩⟩ := h
      exact (workspace.readArgument rfl).next fun _ => side.readWord.next fun _ =>
        amount.readInt.next fun _ => agree_pure rfl
  | workspaceOutputs =>
      obtain _ | ⟨workspace, _ | ⟨outputs, _ | _⟩⟩ := h
      exact (workspace.readArgument rfl).next fun _ => (outputs.readArguments rfl).next fun _ =>
        agree_pure rfl

omit htexts in
/-- The command that a binding or rule runs is one of its fields, and an entry. -/
theorem embeddedText {form : TopLevelForm} (hembeds : form.embeds = true)
    (h : MatchedAll builder builders (Form.topLevel form).keptKinds vs ws)
    (hcommand : ∀ v ∈ vs, ∀ w, Matched builder builders .entry v w →
      Agree Eq (v.commandText texts) (w.commandText texts)) :
    Agree Eq (Value.embeddedText texts form vs) (Value.embeddedText texts form ws) := by
  cases form with
  | bindsym | bindcode =>
      obtain _ | ⟨key, _ | ⟨command, _ | ⟨flags, _ | _⟩⟩⟩ := h
      simpa only [Value.embeddedText, Value.embeddedAt] using hcommand _ (by simp) _ command
  | bindswitch =>
      obtain _ | ⟨switch, _ | ⟨state, _ | ⟨command, _ | ⟨flags, _ | _⟩⟩⟩⟩ := h
      simpa only [Value.embeddedText, Value.embeddedAt] using hcommand _ (by simp) _ command
  | forWindow =>
      obtain _ | ⟨clause, _ | ⟨command, _ | _⟩⟩ := h
      simpa only [Value.embeddedText, Value.embeddedAt] using hcommand _ (by simp) _ command
  | _ => cases hembeds

/-- Entries that are alike are written alike. The induction is on how deep commands are nested. -/
theorem commandText (h : Matched builder builders .entry v w) :
    Agree Eq (v.commandText texts) (w.commandText texts) := by
  induction hsize : sizeOf v using Nat.strong_induction_on generalizing v w with
  | _ n ih =>
    have halike := h.alike
    rcases h.fits with ⟨i, rfl⟩ | ⟨vs, rfl⟩ | ⟨form, vs, rfl⟩ | ⟨form, vs, rfl⟩ <;>
      rcases h.fits' with ⟨j, rfl⟩ | ⟨ws, rfl⟩ | ⟨form', ws, rfl⟩ | ⟨form', ws, rfl⟩
    case inl.inl =>
      exact agree_pure (htexts _ _ h.typed.ref h.typed'.ref (Value.alike_builder_iff.mp halike))
    case inr.inl.inr.inl =>
      obtain _ | ⟨line, _ | _⟩ := h.fields.2
      exact line.readText
    case inr.inr.inl.inr.inr.inl =>
      obtain ⟨⟨⟩, hfields⟩ := h.fields
      have hread := readTopLevelFields htexts hfields fun hembeds =>
        embeddedText hembeds hfields fun inner hinner inner' hmatched =>
          ih (sizeOf inner) (by
            have hlt := List.sizeOf_lt_of_mem hinner
            simp only [Value.record.sizeOf_spec] at hsize
            omega) hmatched rfl
      simpa only [Value.commandText] using hread.map fun _ _ hab => hab
    case inr.inr.inr.inr.inr.inr =>
      obtain ⟨⟨⟩, hfields⟩ := h.fields
      simpa only [Value.commandText] using (readConfigLineFields hfields).same fun _ => rfl
    all_goals cases Value.shape_eq_of_alike halike

end Matched

end SwayControl
