import SwayControl.Grammar.Criterion

/-!
Forms: the kinds of record that a caller can build. Each family of the grammar has its own list.
-/

namespace SwayControl

/-- The records that are criteria. -/
inductive CriterionForm where
  | floating | tiling
  | property (key : CriterionKey)
deriving DecidableEq, Repr

def CriterionForm.all : List CriterionForm :=
  [.property .appId, .property .windowClass, .property .conId, .property .conMark, .floating,
    .property .id, .property .windowInstance, .property .pid, .property .shell, .tiling,
    .property .title, .property .urgent, .property .windowRole, .property .windowType,
    .property .workspace]

/-- The records that are arguments. -/
inductive ArgumentForm where
  | focused | outputName | workspaceName | workspaceNumber | length | color
deriving DecidableEq, Repr

def ArgumentForm.all : List ArgumentForm :=
  [.focused, .outputName, .workspaceName, .workspaceNumber, .length, .color]

/-- The records of font descriptions. -/
inductive FontForm where
  | options | size | description | font
deriving DecidableEq, Repr

def FontForm.all : List FontForm :=
  [.options, .size, .description, .font]

/-- The records that are arguments of sub-commands only. -/
inductive WindowForm where
  | borderStyle | focusCycle | focusOutput | layoutToggle | resizeBy | resizeSet | moveDirection
    | movePosition | moveAbsolutePosition | moveToMark | moveToWorkspace | moveContainerToOutput
    | moveWorkspaceToOutput
deriving DecidableEq, Repr

def WindowForm.all : List WindowForm :=
  [.borderStyle, .focusCycle, .focusOutput, .layoutToggle, .resizeBy, .resizeSet, .moveDirection,
    .movePosition, .moveAbsolutePosition, .moveToMark, .moveToWorkspace, .moveContainerToOutput,
    .moveWorkspaceToOutput]

/-- The records that are sub-commands. -/
inductive SubCommandForm where
  | border | exit | floating | focus | fullscreen | gaps | inhibitIdle | kill | layout | mark
    | maxRenderTime | move | nop | opacity | reload | renameWorkspace | resize | scratchpadShow
    | shortcutsInhibitor | split | sticky | swap | titleFormat | unmark | urgentHint
deriving DecidableEq, Repr

def SubCommandForm.all : List SubCommandForm :=
  [.border, .exit, .floating, .focus, .fullscreen, .gaps, .inhibitIdle, .kill, .layout, .mark,
    .maxRenderTime, .move, .nop, .opacity, .reload, .renameWorkspace, .resize, .scratchpadShow,
    .shortcutsInhibitor, .split, .sticky, .swap, .titleFormat, .unmark, .urgentHint]

/-- The records of keys and flags. -/
inductive BindingForm where
  | bindFlags | modifiers | symKey | codeKey | switchFlags
deriving DecidableEq, Repr

def BindingForm.all : List BindingForm :=
  [.bindFlags, .modifiers, .symKey, .codeKey, .switchFlags]

/-- The records that are top-level commands. -/
inductive TopLevelForm where
  | assignToWorkspace | assignToOutput | bindsym | bindcode | bindswitch | clientBackground
    | clientColors | defaultBorder | defaultFloatingBorder | exec | execAlways
    | floatingMaximumSize | floatingMinimumSize | floatingModifier | focusFollowsMouse
    | focusOnWindowActivation | focusWrapping | font | forceDisplayUrgencyHint
    | titlebarBorderThickness | titlebarPadding | forWindow | defaultGaps | hideEdgeBorders
    | input | seat | output | smartBorders | smartGaps | mode | defineMode | mouseWarping
    | noFocus | popupDuringFullscreen | setVariable | showMarks | tilingDrag | tilingDragThreshold
    | titleAlign | unbindswitch | unbindsym | unbindcode | workspace | workspaceGaps
    | workspaceOutputs | workspaceAutoBackAndForth
deriving DecidableEq, Repr

def TopLevelForm.all : List TopLevelForm :=
  [.assignToWorkspace, .assignToOutput, .bindsym, .bindcode, .bindswitch, .clientBackground,
    .clientColors, .defaultBorder, .defaultFloatingBorder, .exec, .execAlways,
    .floatingMaximumSize, .floatingMinimumSize, .floatingModifier, .focusFollowsMouse,
    .focusOnWindowActivation, .focusWrapping, .font, .forceDisplayUrgencyHint,
    .titlebarBorderThickness, .titlebarPadding, .forWindow, .defaultGaps, .hideEdgeBorders,
    .input, .seat, .output, .smartBorders, .smartGaps, .mode, .defineMode, .mouseWarping,
    .noFocus, .popupDuringFullscreen, .setVariable, .showMarks, .tilingDrag, .tilingDragThreshold,
    .titleAlign, .unbindswitch, .unbindsym, .unbindcode, .workspace, .workspaceGaps,
    .workspaceOutputs, .workspaceAutoBackAndForth]

/-- The records that are lines of the configuration file. -/
inductive ConfigLineForm where
  | bar | defaultOrientation | includeFile | swaybgCommand | swaynagCommand | workspaceLayout
    | xwayland
deriving DecidableEq, Repr

def ConfigLineForm.all : List ConfigLineForm :=
  [.bar, .defaultOrientation, .includeFile, .swaybgCommand, .swaynagCommand, .workspaceLayout,
    .xwayland]

/-- A kind of record. `raw` is command text that is sent as it is. -/
inductive Form where
  | argument (form : ArgumentForm)
  | criterion (form : CriterionForm)
  | font (form : FontForm)
  | window (form : WindowForm)
  | subCommand (form : SubCommandForm)
  | binding (form : BindingForm)
  | topLevel (form : TopLevelForm)
  | configLine (form : ConfigLineForm)
  | raw
deriving DecidableEq, Repr

end SwayControl
