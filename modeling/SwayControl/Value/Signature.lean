import SwayControl.Grammar.Words.ConfigLine
import SwayControl.Grammar.Words.Font
import SwayControl.Grammar.Words.Shared
import SwayControl.Grammar.Words.TopLevel
import SwayControl.Grammar.Words.Window
import SwayControl.Grammar.Words.Criterion
import SwayControl.Value.Basic

/-!
Signatures: what messages call each form, the fields of its records in order, and the values that
fields take when a caller leaves them out.
-/

namespace SwayControl

/-- A field of a record, and the value it takes when it is left out. -/
structure Field where
  name : String
  fallback : Option Value

structure Signature where
  name : String
  fields : List Field

def needed (name : String) : Field := ⟨name, none⟩

def optional (name : String) (fallback : Value) : Field := ⟨name, some fallback⟩

open Value (word)

def noModifiers : Value := .record (.binding .modifiers) (List.replicate 6 (.flag false))

def noBindFlags : Value :=
  .record (.binding .bindFlags)
    (List.replicate 6 (.flag false) ++ [.absent] ++ List.replicate 3 (.flag false))

def noSwitchFlags : Value := .record (.binding .switchFlags) (List.replicate 3 (.flag false))

def noFontOptions : Value := .record (.font .options) (List.replicate 5 .absent)

/-- What messages call a criterion for a property. -/
def CriterionKey.formName : CriterionKey → String
  | .appId => "AppId"
  | .windowClass => "Class"
  | .conId => "ConId"
  | .conMark => "ConMark"
  | .id => "Id"
  | .windowInstance => "Instance"
  | .pid => "Pid"
  | .shell => "Shell"
  | .title => "Title"
  | .urgent => "Urgent"
  | .windowRole => "WindowRole"
  | .windowType => "WindowType"
  | .workspace => "Workspace"

def CriterionForm.signature : CriterionForm → Signature
  | .floating => ⟨"Floating", []⟩
  | .tiling => ⟨"Tiling", []⟩
  | .property key => ⟨key.formName, [needed "value"]⟩

def ArgumentForm.signature : ArgumentForm → Signature
  | .focused => ⟨"Focused", []⟩
  | .outputName => ⟨"OutputName", [needed "name"]⟩
  | .workspaceName => ⟨"WorkspaceName", [needed "name", optional "number" .absent]⟩
  | .workspaceNumber => ⟨"WorkspaceNumber", [needed "workspace"]⟩
  | .length => ⟨"Length", [needed "amount", optional "unit" .absent]⟩
  | .color => ⟨"Color", [needed "red", needed "green", needed "blue", optional "alpha" .absent]⟩

def FontForm.signature : FontForm → Signature
  | .options => ⟨"FontStyleOptions",
    [optional "style" .absent, optional "variant" .absent, optional "weight" .absent,
      optional "stretch" .absent, optional "gravity" .absent]⟩
  | .size => ⟨"FontSize", [needed "value", optional "pixels" (.flag false)]⟩
  | .description => ⟨"FontDescription",
    [needed "families", optional "options" noFontOptions, optional "size" .absent,
      optional "variations" (.tuple [])]⟩
  | .font => ⟨"Font", [needed "description", optional "pango" (.flag false)]⟩

def WindowForm.signature : WindowForm → Signature
  | .borderStyle => ⟨"BorderStyle", [needed "kind", optional "thickness" .absent]⟩
  | .focusCycle => ⟨"FocusCycle", [needed "cycle", optional "sibling" (.flag false)]⟩
  | .focusOutput => ⟨"FocusOutput", [needed "output"]⟩
  | .layoutToggle => ⟨"LayoutToggle", [optional "over" .absent]⟩
  | .resizeBy => ⟨"ResizeBy", [needed "action", needed "dimension", needed "amount"]⟩
  | .resizeSet => ⟨"ResizeSet", [optional "width" .absent, optional "height" .absent]⟩
  | .moveDirection => ⟨"MoveDirection", [needed "direction", needed "pixels"]⟩
  | .movePosition => ⟨"MovePosition", [needed "x", needed "y"]⟩
  | .moveAbsolutePosition => ⟨"MoveAbsolutePosition", [needed "x", needed "y"]⟩
  | .moveToMark => ⟨"MoveToMark", [needed "mark"]⟩
  | .moveToWorkspace => ⟨"MoveToWorkspace",
    [needed "workspace", optional "no_auto_back_and_forth" (.flag false)]⟩
  | .moveContainerToOutput => ⟨"MoveContainerToOutput", [needed "output"]⟩
  | .moveWorkspaceToOutput => ⟨"MoveWorkspaceToOutput", [needed "output"]⟩

def SubCommandForm.signature : SubCommandForm → Signature
  | .border => ⟨"Border", [needed "style"]⟩
  | .exit => ⟨"Exit", []⟩
  | .floating => ⟨"Floating", [needed "state"]⟩
  | .focus => ⟨"Focus", [needed "target"]⟩
  | .fullscreen => ⟨"Fullscreen", [needed "state", optional "global_" (.flag false)]⟩
  | .gaps => ⟨"Gaps", [needed "direction", needed "scope", needed "change", needed "amount"]⟩
  | .inhibitIdle => ⟨"InhibitIdle", [needed "mode"]⟩
  | .kill => ⟨"Kill", []⟩
  | .layout => ⟨"Layout", [needed "mode"]⟩
  | .mark => ⟨"Mark", [needed "identifier", optional "mode" (word MarkMode.replace)]⟩
  | .maxRenderTime => ⟨"MaxRenderTime", [optional "msec" .absent]⟩
  | .move => ⟨"Move", [needed "target"]⟩
  | .nop => ⟨"Nop", [optional "comment" .absent]⟩
  | .opacity => ⟨"Opacity", [needed "change", needed "value"]⟩
  | .reload => ⟨"Reload", []⟩
  | .renameWorkspace => ⟨"RenameWorkspace", [needed "new_name", optional "old_name" .absent]⟩
  | .resize => ⟨"Resize", [needed "change"]⟩
  | .scratchpadShow => ⟨"ScratchpadShow", []⟩
  | .shortcutsInhibitor => ⟨"ShortcutsInhibitor", [needed "state"]⟩
  | .split => ⟨"Split", [needed "mode"]⟩
  | .sticky => ⟨"Sticky", [needed "state"]⟩
  | .swap => ⟨"Swap", [needed "kind", needed "value"]⟩
  | .titleFormat => ⟨"TitleFormat", [needed "format"]⟩
  | .unmark => ⟨"Unmark", [optional "identifier" .absent]⟩
  | .urgentHint => ⟨"UrgentHint", [needed "action"]⟩

def BindingForm.signature : BindingForm → Signature
  | .bindFlags => ⟨"BindFlags",
    [optional "whole_window" (.flag false), optional "border" (.flag false),
      optional "exclude_title_bar" (.flag false), optional "release" (.flag false),
      optional "locked" (.flag false), optional "to_code" (.flag false),
      optional "input_device" .absent, optional "no_warn" (.flag false),
      optional "no_repeat" (.flag false), optional "inhibited" (.flag false)]⟩
  | .modifiers => ⟨"Modifiers",
    [optional "mod1" (.flag false), optional "mod2" (.flag false), optional "mod3" (.flag false),
      optional "mod4" (.flag false), optional "shift" (.flag false),
      optional "control" (.flag false)]⟩
  | .symKey => ⟨"SymKey",
    [needed "key", optional "modifiers" noModifiers, optional "group" (word LayoutGroup.none)]⟩
  | .codeKey => ⟨"KeyCode", [needed "code", optional "modifiers" noModifiers]⟩
  | .switchFlags => ⟨"BindswitchFlags",
    [optional "locked" (.flag false), optional "no_warn" (.flag false),
      optional "reload" (.flag false)]⟩

def TopLevelForm.signature : TopLevelForm → Signature
  | .assignToWorkspace => ⟨"AssignToWorkspace", [needed "criteria", needed "workspace"]⟩
  | .assignToOutput => ⟨"AssignToOutput", [needed "criteria", needed "output"]⟩
  | .bindsym => ⟨"Bindsym", [needed "key", needed "command", optional "flags" noBindFlags]⟩
  | .bindcode => ⟨"Bindcode", [needed "key", needed "command", optional "flags" noBindFlags]⟩
  | .bindswitch => ⟨"Bindswitch",
    [needed "switch", needed "state", needed "command", optional "flags" noSwitchFlags]⟩
  | .clientBackground => ⟨"ClientBackground", [needed "color"]⟩
  | .clientColors => ⟨"ClientColors",
    [needed "state", needed "border", needed "background", needed "text",
      optional "indicator" .absent, optional "child_border" .absent]⟩
  | .defaultBorder => ⟨"DefaultBorder", [needed "style"]⟩
  | .defaultFloatingBorder => ⟨"DefaultFloatingBorder", [needed "style"]⟩
  | .exec => ⟨"Exec", [needed "command"]⟩
  | .execAlways => ⟨"ExecAlways", [needed "command"]⟩
  | .floatingMaximumSize => ⟨"FloatingMaximumSize", [needed "width", needed "height"]⟩
  | .floatingMinimumSize => ⟨"FloatingMinimumSize", [needed "width", needed "height"]⟩
  | .floatingModifier => ⟨"FloatingModifier",
    [needed "modifier", optional "mode" (word FloatingModifierMode.normal)]⟩
  | .focusFollowsMouse => ⟨"FocusFollowsMouse", [needed "mode"]⟩
  | .focusOnWindowActivation => ⟨"FocusOnWindowActivation", [needed "mode"]⟩
  | .focusWrapping => ⟨"FocusWrapping", [needed "mode"]⟩
  | .font => ⟨"Font", [needed "font"]⟩
  | .forceDisplayUrgencyHint => ⟨"ForceDisplayUrgencyHint", [needed "msec"]⟩
  | .titlebarBorderThickness => ⟨"TitlebarBorderThickness", [needed "thickness"]⟩
  | .titlebarPadding => ⟨"TitlebarPadding", [needed "horizontal", optional "vertical" .absent]⟩
  | .forWindow => ⟨"ForWindow", [needed "criteria", needed "command"]⟩
  | .defaultGaps => ⟨"DefaultGaps", [needed "direction", needed "amount"]⟩
  | .hideEdgeBorders => ⟨"HideEdgeBorders", [needed "mode", optional "i3" (.flag false)]⟩
  | .input => ⟨"Input", [needed "identifier", optional "settings" (.tuple [])]⟩
  | .seat => ⟨"Seat", [needed "name", optional "settings" (.tuple [])]⟩
  | .output => ⟨"Output", [needed "name", optional "settings" (.tuple [])]⟩
  | .smartBorders => ⟨"SmartBorders", [needed "mode"]⟩
  | .smartGaps => ⟨"SmartGaps", [needed "mode"]⟩
  | .mode => ⟨"Mode", [needed "name"]⟩
  | .defineMode => ⟨"DefineMode",
    [needed "name", optional "commands" (.tuple []), optional "pango_markup" (.flag false)]⟩
  | .mouseWarping => ⟨"MouseWarping", [needed "mode"]⟩
  | .noFocus => ⟨"NoFocus", [needed "criteria"]⟩
  | .popupDuringFullscreen => ⟨"PopupDuringFullscreen", [needed "policy"]⟩
  | .setVariable => ⟨"SetVariable", [needed "name", needed "value"]⟩
  | .showMarks => ⟨"ShowMarks", [needed "state"]⟩
  | .tilingDrag => ⟨"TilingDrag", [needed "state"]⟩
  | .tilingDragThreshold => ⟨"TilingDragThreshold", [needed "threshold"]⟩
  | .titleAlign => ⟨"TitleAlign", [needed "alignment"]⟩
  | .unbindswitch => ⟨"Unbindswitch", [needed "switch", needed "state"]⟩
  | .unbindsym => ⟨"Unbindsym", [needed "key", optional "flags" noBindFlags]⟩
  | .unbindcode => ⟨"Unbindcode", [needed "key", optional "flags" noBindFlags]⟩
  | .workspace => ⟨"Workspace", [needed "workspace"]⟩
  | .workspaceGaps => ⟨"WorkspaceGaps", [needed "workspace", needed "direction", needed "amount"]⟩
  | .workspaceOutputs => ⟨"WorkspaceOutputs", [needed "workspace", needed "outputs"]⟩
  | .workspaceAutoBackAndForth => ⟨"WorkspaceAutoBackAndForth", [needed "state"]⟩

def ConfigLineForm.signature : ConfigLineForm → Signature
  | .bar => ⟨"Bar", [optional "bar_id" .absent, optional "subcommands" (.tuple [])]⟩
  | .defaultOrientation => ⟨"DefaultOrientation", [needed "orientation"]⟩
  | .includeFile => ⟨"Include", [needed "path"]⟩
  | .swaybgCommand => ⟨"SwaybgCommand", [needed "command"]⟩
  | .swaynagCommand => ⟨"SwaynagCommand", [needed "command"]⟩
  | .workspaceLayout => ⟨"WorkspaceLayout", [needed "mode"]⟩
  | .xwayland => ⟨"Xwayland", [needed "mode"]⟩

def Form.signature : Form → Signature
  | .argument form => form.signature
  | .criterion form => form.signature
  | .font form => form.signature
  | .window form => form.signature
  | .subCommand form => form.signature
  | .binding form => form.signature
  | .topLevel form => form.signature
  | .configLine form => form.signature
  | .raw => ⟨"RawCommand", [needed "text"]⟩

def Form.name (form : Form) : String := form.signature.name

def Form.fieldNames (form : Form) : List String := form.signature.fields.map Field.name

/-- All words that a keyword slot may hold. -/
def Word.catalog : List Word :=
  [Keyword.words Switch, Keyword.words Toggle, Keyword.words YesNo, Keyword.words GapSide,
    Keyword.words Direction, Keyword.words OutputDirection, Keyword.words WorkspaceStep,
    Keyword.words LengthUnit, Keyword.words UrgentPick, Keyword.words WindowKind,
    Keyword.words FontStyle, Keyword.words FontVariant, Keyword.words FontWeight,
    Keyword.words FontStretch, Keyword.words FontGravity, Keyword.words BorderKind,
    Keyword.words FocusPlace, Keyword.words Cycle, Keyword.words GapScope, Keyword.words GapChange,
    Keyword.words IdleInhibit, Keyword.words LayoutMode, Keyword.words LayoutCycle,
    Keyword.words LayoutOption, Keyword.words MarkMode, Keyword.words OpacityChange,
    Keyword.words ResizeAction, Keyword.words Dimension, Keyword.words SplitMode,
    Keyword.words SwapKind, Keyword.words UrgentAction, Keyword.words MovePlacement,
    Keyword.words LayoutGroup, Keyword.words SwitchKind, Keyword.words SwitchState,
    Keyword.words ClientState, Keyword.words FloatingModifierMode, Keyword.words MouseFocus,
    Keyword.words WindowActivation, Keyword.words FocusWrap, Keyword.words EdgeBorderMode,
    Keyword.words SmartBorderMode, Keyword.words SmartGapMode, Keyword.words MouseWarp,
    Keyword.words PopupPolicy, Keyword.words Alignment, Keyword.words Orientation,
    Keyword.words WorkspaceLayoutMode, Keyword.words XwaylandMode].flatten

def Word.find? (family member : String) : Option Word :=
  Word.catalog.find? fun w => w.family == family && w.member == member

end SwayControl
