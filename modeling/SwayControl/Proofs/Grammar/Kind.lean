import Mathlib.Data.List.Forall2
import SwayControl.Builder.Record

/-!
The declared kinds of fields. A kind says which values a field takes; every form has a kind for each of
its fields. A value is well typed if each record in it has fields of their kinds and passes the checks of
its form. Bindings and rules take any command and keep an entry, so what a record holds is judged by the
kinds that it keeps.
-/

namespace SwayControl

/-- The kinds of value that fields take. A keyword list has no two words of one text. -/
inductive Kind where
  | absent | text | integer | number | flag
  | word (words : List Word) (distinct : (words.map Word.text).Nodup)
  | record (forms : List Form)
  | tuple (item : Kind)
  | pair (first second : Kind)
  | either (left right : Kind)
  | criterion | group | subCommand | unit | entry | command

/-- A text, or a keyword, which is one. -/
def Value.IsText (v : Value) : Prop := (∃ t, v = .text t) ∨ ∃ w, v = .keyword w

/-- A record of some sub-command. -/
def Value.IsSubCommand (v : Value) : Prop := ∃ form fields, v = .record (.subCommand form) fields

/-- What batches, bindings and rules keep of commands. -/
def Value.IsEntry (v : Value) : Prop :=
  (∃ i, v = .builder (.unit i)) ∨ (∃ fields, v = .record .raw fields) ∨
    (∃ form fields, v = .record (.topLevel form) fields) ∨
      ∃ form fields, v = .record (.configLine form) fields

namespace Kind

/-- A kind that may be absent. -/
def optional (kind : Kind) : Kind := .either .absent kind

/-- The words of a keyword list. -/
def keyword (α : Type) [Keyword α] (distinct : ((Keyword.words α).map Word.text).Nodup) : Kind :=
  .word (Keyword.words α) distinct

/-- Whether a value is of a kind. Of a record only the form counts here. A text may be any keyword, as
those are texts; a truth value is no integer. -/
def Fits : Kind → Value → Prop
  | .absent, v => v = .absent
  | .text, v => v.IsText
  | .integer, v => ∃ n, v = .int n
  | .number, v => (∃ n, v = .int n) ∨ ∃ x, v = .real x
  | .flag, v => ∃ on, v = .flag on
  | .word words _, v => ∃ w ∈ words, v = .keyword w
  | .record forms, v => ∃ form ∈ forms, ∃ fields, v = .record form fields
  | .tuple item, v => ∃ items, v = .tuple items ∧ ∀ i ∈ items, item.Fits i
  | .pair first second, v => ∃ a b, v = .tuple [a, b] ∧ first.Fits a ∧ second.Fits b
  | .either left right, v => left.Fits v ∨ right.Fits v
  | .criterion, v => ∃ form fields, v = .record (.criterion form) fields
  | .group, v => ∃ i, v = .builder (.group i)
  | .subCommand, v => v.IsSubCommand
  | .unit, v => ∃ i, v = .builder (.unit i)
  | .entry, v => v.IsEntry
  | .command, v => v.IsEntry ∨ v.IsText ∨ v.IsSubCommand

/-- What is kept of a field: an entry of a command, and all else as it is. -/
def kept : Kind → Kind
  | .command => .entry
  | kind => kind

/-- An output, by name or from where it lies. -/
def output : Kind :=
  .either (keyword OutputDirection (by decide)) (.record [.argument .outputName])

/-- A workspace, by name, by number or from where it lies. -/
def workspace : Kind :=
  .either (keyword WorkspaceStep (by decide))
    (.record [.argument .workspaceName, .argument .workspaceNumber])

/-- A text, or that of the focused window. -/
def focusable : Kind := .either .text (.record [.argument .focused])

end Kind

open Kind (keyword)

/-- The kind of value that a property is compared with. -/
def CriterionKey.kind : CriterionKey → Kind
  | .appId | .windowClass | .windowInstance | .shell | .title | .windowRole | .workspace =>
    .focusable
  | .conId => .either .integer (.record [.argument .focused])
  | .conMark => .text
  | .id | .pid => .integer
  | .urgent => keyword UrgentPick (by decide)
  | .windowType => keyword WindowKind (by decide)

def CriterionForm.kinds : CriterionForm → List Kind
  | .floating | .tiling => []
  | .property key => [key.kind]

def ArgumentForm.kinds : ArgumentForm → List Kind
  | .focused => []
  | .outputName => [.text]
  | .workspaceName => [.text, .optional .integer]
  | .workspaceNumber => [.record [.argument .workspaceName]]
  | .length => [.integer, .optional (keyword LengthUnit (by decide))]
  | .color => [.integer, .integer, .integer, .optional .integer]

/-- No two weights of a font are written alike. -/
theorem distinct_fontWeights : ((Keyword.words FontWeight).map Word.text).Nodup := by decide +kernel

def FontForm.kinds : FontForm → List Kind
  | .options =>
    [.optional (keyword FontStyle (by decide)), .optional (keyword FontVariant (by decide)),
      .optional (keyword FontWeight distinct_fontWeights),
      .optional (keyword FontStretch (by decide)), .optional (keyword FontGravity (by decide))]
  | .size => [.number, .flag]
  | .description =>
    [.tuple .text, .record [.font .options], .optional (.record [.font .size]),
      .tuple (.pair .text .text)]
  | .font => [.record [.font .description], .flag]

def WindowForm.kinds : WindowForm → List Kind
  | .borderStyle => [keyword BorderKind (by decide), .optional .integer]
  | .focusCycle => [keyword Cycle (by decide), .flag]
  | .focusOutput => [.output]
  | .layoutToggle =>
    [.optional (.either (keyword LayoutCycle (by decide))
      (.tuple (keyword LayoutOption (by decide))))]
  | .resizeBy =>
    [keyword ResizeAction (by decide), keyword Dimension (by decide),
      .record [.argument .length]]
  | .resizeSet => [.optional (.record [.argument .length]), .optional (.record [.argument .length])]
  | .moveDirection => [keyword Direction (by decide), .integer]
  | .movePosition => [.record [.argument .length], .record [.argument .length]]
  | .moveAbsolutePosition => [.integer, .integer]
  | .moveToMark => [.text]
  | .moveToWorkspace => [.workspace, .flag]
  | .moveContainerToOutput | .moveWorkspaceToOutput => [.output]

def SubCommandForm.kinds : SubCommandForm → List Kind
  | .border => [.record [.window .borderStyle]]
  | .exit | .kill | .reload | .scratchpadShow => []
  | .floating | .sticky => [keyword Toggle (by decide)]
  | .focus =>
    [.either (keyword FocusPlace (by decide))
      (.record [.window .focusCycle, .window .focusOutput])]
  | .fullscreen => [keyword Toggle (by decide), .flag]
  | .gaps =>
    [keyword GapSide (by decide), keyword GapScope (by decide), keyword GapChange (by decide),
      .integer]
  | .inhibitIdle => [keyword IdleInhibit (by decide)]
  | .layout => [.either (keyword LayoutMode (by decide)) (.record [.window .layoutToggle])]
  | .mark => [.text, keyword MarkMode (by decide)]
  | .maxRenderTime => [.optional .integer]
  | .move =>
    [.either (keyword MovePlacement (by decide))
      (.record [.window .moveDirection, .window .movePosition, .window .moveAbsolutePosition,
        .window .moveToMark, .window .moveToWorkspace, .window .moveContainerToOutput,
        .window .moveWorkspaceToOutput])]
  | .nop | .unmark => [.optional .text]
  | .opacity => [keyword OpacityChange (by decide), .number]
  | .renameWorkspace => [.text, .optional .text]
  | .resize => [.record [.window .resizeBy, .window .resizeSet]]
  | .shortcutsInhibitor => [keyword Switch (by decide)]
  | .split => [keyword SplitMode (by decide)]
  | .swap => [keyword SwapKind (by decide), .text]
  | .titleFormat => [.text]
  | .urgentHint => [keyword UrgentAction (by decide)]

def BindingForm.kinds : BindingForm → List Kind
  | .bindFlags =>
    [.flag, .flag, .flag, .flag, .flag, .flag, .optional .text, .flag, .flag, .flag]
  | .modifiers => [.flag, .flag, .flag, .flag, .flag, .flag]
  | .symKey => [.text, .record [.binding .modifiers], keyword LayoutGroup (by decide)]
  | .codeKey => [.integer, .record [.binding .modifiers]]
  | .switchFlags => [.flag, .flag, .flag]

def TopLevelForm.kinds : TopLevelForm → List Kind
  | .assignToWorkspace => [.group, .workspace]
  | .assignToOutput => [.group, .output]
  | .bindsym => [.record [.binding .symKey], .command, .record [.binding .bindFlags]]
  | .bindcode => [.record [.binding .codeKey], .command, .record [.binding .bindFlags]]
  | .bindswitch =>
    [keyword SwitchKind (by decide), keyword SwitchState (by decide), .command,
      .record [.binding .switchFlags]]
  | .clientBackground => [.record [.argument .color]]
  | .clientColors =>
    [keyword ClientState (by decide), .record [.argument .color], .record [.argument .color],
      .record [.argument .color], .optional (.record [.argument .color]),
      .optional (.record [.argument .color])]
  | .defaultBorder | .defaultFloatingBorder => [.record [.window .borderStyle]]
  | .exec | .execAlways | .mode => [.text]
  | .floatingMaximumSize | .floatingMinimumSize => [.integer, .integer]
  | .floatingModifier => [.optional .text, keyword FloatingModifierMode (by decide)]
  | .focusFollowsMouse => [keyword MouseFocus (by decide)]
  | .focusOnWindowActivation => [keyword WindowActivation (by decide)]
  | .focusWrapping => [keyword FocusWrap (by decide)]
  | .font => [.record [.font .font]]
  | .forceDisplayUrgencyHint | .titlebarBorderThickness | .tilingDragThreshold => [.integer]
  | .titlebarPadding => [.integer, .optional .integer]
  | .forWindow => [.group, .command]
  | .defaultGaps => [keyword GapSide (by decide), .integer]
  | .hideEdgeBorders => [keyword EdgeBorderMode (by decide), .flag]
  | .input | .seat | .output => [.text, .tuple .text]
  | .smartBorders => [keyword SmartBorderMode (by decide)]
  | .smartGaps => [keyword SmartGapMode (by decide)]
  | .defineMode => [.text, .tuple .text, .flag]
  | .mouseWarping => [keyword MouseWarp (by decide)]
  | .noFocus => [.group]
  | .popupDuringFullscreen => [keyword PopupPolicy (by decide)]
  | .setVariable => [.text, .text]
  | .showMarks | .workspaceAutoBackAndForth => [keyword YesNo (by decide)]
  | .tilingDrag => [keyword Toggle (by decide)]
  | .titleAlign => [keyword Alignment (by decide)]
  | .unbindswitch => [keyword SwitchKind (by decide), keyword SwitchState (by decide)]
  | .unbindsym => [.record [.binding .symKey], .record [.binding .bindFlags]]
  | .unbindcode => [.record [.binding .codeKey], .record [.binding .bindFlags]]
  | .workspace => [.workspace]
  | .workspaceGaps =>
    [.record [.argument .workspaceName], keyword GapSide (by decide), .integer]
  | .workspaceOutputs => [.record [.argument .workspaceName], .tuple .text]

def ConfigLineForm.kinds : ConfigLineForm → List Kind
  | .bar => [.optional .text, .tuple .text]
  | .defaultOrientation => [keyword Orientation (by decide)]
  | .includeFile | .swaybgCommand | .swaynagCommand => [.text]
  | .workspaceLayout => [keyword WorkspaceLayoutMode (by decide)]
  | .xwayland => [keyword XwaylandMode (by decide)]

/-- The declared kinds of the fields of a form. -/
def Form.kinds : Form → List Kind
  | .argument form => form.kinds
  | .criterion form => form.kinds
  | .font form => form.kinds
  | .window form => form.kinds
  | .subCommand form => form.kinds
  | .binding form => form.kinds
  | .topLevel form => form.kinds
  | .configLine form => form.kinds
  | .raw => [.text]

/-- The kinds of what the records of a form keep. -/
def Form.keptKinds (form : Form) : List Kind := form.kinds.map Kind.kept

end SwayControl
