import SwayControl.Grammar.Binding
import SwayControl.Grammar.Font
import SwayControl.Grammar.SubCommand

/-!
Top-level commands: global settings, bindings, window rules and workspaces. They take no criteria of
their own. A rule holds the text of its criteria clause, and a rule or binding the text of the command
it runs, as both stood when the rule was made.
-/

namespace SwayControl

/-- The colours of one window state. A child border is written only after an indicator, because the two
are told apart by their position. -/
structure ClientColors where
  state : ClientState
  border : Argument
  background : Argument
  text : Argument
  indicator : Option Argument
  childBorder : Option Argument
deriving DecidableEq, Repr

/-- A command that is sent on its own. -/
inductive TopLevel where
  | assignToWorkspace (clause : String) (workspace : Argument)
  | assignToOutput (clause : String) (output : Argument)
  | bindsym (key : SymKey) (command : String) (flags : BindFlags)
  | bindcode (key : CodeKey) (command : String) (flags : BindFlags)
  | bindswitch (switch : SwitchKind) (state : SwitchState) (command : String) (flags : SwitchFlags)
  | clientBackground (color : Argument)
  | clientColors (colors : ClientColors)
  | defaultBorder (style : BorderStyle)
  | defaultFloatingBorder (style : BorderStyle)
  | exec (command : String)
  | execAlways (command : String)
  | floatingMaximumSize (width height : Int)
  | floatingMinimumSize (width height : Int)
  | floatingModifier (modifier : Option Argument) (mode : FloatingModifierMode)
  | focusFollowsMouse (mode : MouseFocus)
  | focusOnWindowActivation (mode : WindowActivation)
  | focusWrapping (mode : FocusWrap)
  | font (font : Font)
  | forceDisplayUrgencyHint (milliseconds : Int)
  | titlebarBorderThickness (thickness : Int)
  | titlebarPadding (horizontal : Int) (vertical : Option Argument)
  | forWindow (clause : String) (command : String)
  | defaultGaps (side : GapSide) (amount : Int)
  | hideEdgeBorders (mode : EdgeBorderMode) (i3 : Bool)
  | input (identifier : String) (settings : List Argument)
  | seat (name : String) (settings : List Argument)
  | output (name : String) (settings : List Argument)
  | smartBorders (mode : SmartBorderMode)
  | smartGaps (mode : SmartGapMode)
  | mode (name : String)
  | defineMode (name : String) (commands : List Argument) (pangoMarkup : Bool)
  | mouseWarping (mode : MouseWarp)
  | noFocus (clause : String)
  | popupDuringFullscreen (policy : PopupPolicy)
  | setVariable (name value : String)
  | showMarks (state : YesNo)
  | tilingDrag (state : Toggle)
  | tilingDragThreshold (threshold : Int)
  | titleAlign (alignment : Alignment)
  | unbindswitch (switch : SwitchKind) (state : SwitchState)
  | unbindsym (key : SymKey) (flags : BindFlags)
  | unbindcode (key : CodeKey) (flags : BindFlags)
  | workspace (workspace : Argument)
  | workspaceGaps (workspace : Argument) (side : GapSide) (amount : Int)
  | workspaceOutputs (workspace : Argument) (outputs : List Argument)
  | workspaceAutoBackAndForth (state : YesNo)
deriving DecidableEq, Repr

open Keyword (text)

/-- The kinds of border that a default may name. -/
def BorderKind.allowedAsDefault : BorderKind → Bool
  | .none | .normal | .pixel => true
  | .csd | .toggle => false

def ClientColors.slots (c : ClientColors) : List String :=
  [Keyword.text c.state, c.border.render, c.background.render, c.text.render,
    Argument.renderOptional c.indicator,
    if c.indicator.isSome then Argument.renderOptional c.childBorder else ""]

def ClientColors.render (c : ClientColors) : String := spaced c.slots

/-- A switch and its state with a colon between them. -/
def switchEvent (switch : SwitchKind) (state : SwitchState) : String :=
  text switch ++ ":" ++ text state

def TopLevel.render : TopLevel → String
  | .assignToWorkspace clause target => spaced ["assign", clause, "→ workspace", target.render]
  | .assignToOutput clause target => spaced ["assign", clause, "→ output", target.render]
  | .bindsym key command flags => spaced (["bindsym"] ++ flags.slots ++ [key.render, command])
  | .bindcode key command flags => spaced (["bindcode"] ++ flags.slots ++ [key.render, command])
  | .bindswitch switch state command flags =>
    spaced ["bindswitch", flags.render, switchEvent switch state, command]
  | .clientBackground color => spaced ["client.background", color.render]
  | .clientColors colors => "client." ++ colors.render
  | .defaultBorder style => spaced ["default_border", style.render]
  | .defaultFloatingBorder style => spaced ["default_floating_border", style.render]
  | .exec command => spaced ["exec", command]
  | .execAlways command => spaced ["exec_always", command]
  | .floatingMaximumSize width height =>
    spaced ["floating_maximum_size", toString width, "x", toString height]
  | .floatingMinimumSize width height =>
    spaced ["floating_minimum_size", toString width, "x", toString height]
  | .floatingModifier modifier word =>
    spaced ["floating_modifier", Argument.renderOptional modifier, text word]
  | .focusFollowsMouse word => spaced ["focus_follows_mouse", text word]
  | .focusOnWindowActivation word => spaced ["focus_on_window_activation", text word]
  | .focusWrapping word => spaced ["focus_wrapping", text word]
  | .font spec => spaced ["font", spec.render]
  | .forceDisplayUrgencyHint milliseconds =>
    spaced ["force_display_urgency_hint", toString milliseconds, "ms"]
  | .titlebarBorderThickness thickness => spaced ["titlebar_border_thickness", toString thickness]
  | .titlebarPadding horizontal vertical =>
    spaced ["titlebar_padding", toString horizontal, Argument.renderOptional vertical]
  | .forWindow clause command => spaced ["for_window", clause, command]
  | .defaultGaps side amount => spaced ["gaps", text side, toString amount]
  | .hideEdgeBorders word i3 => spaced ["hide_edge_borders", tokenIf i3 "--i3 " ++ text word]
  | .input identifier settings => spaced ["input", identifier, Argument.separated " " settings]
  | .seat name settings => spaced ["seat", name, Argument.separated " " settings]
  | .output name settings => spaced ["output", name, Argument.separated " " settings]
  | .smartBorders word => spaced ["smart_borders", text word]
  | .smartGaps word => spaced ["smart_gaps", text word]
  | .mode name => spaced ["mode", name]
  | .defineMode name commands pangoMarkup =>
    spaced ["mode", tokenIf pangoMarkup "--pango_markup " ++ name, Argument.separated " " commands]
  | .mouseWarping word => spaced ["mouse_warping", text word]
  | .noFocus clause => spaced ["no_focus", clause]
  | .popupDuringFullscreen policy => spaced ["popup_during_fullscreen", text policy]
  | .setVariable name value => spaced ["set", "$" ++ name, value]
  | .showMarks state => spaced ["show_marks", text state]
  | .tilingDrag state => spaced ["tiling_drag", text state]
  | .tilingDragThreshold threshold => spaced ["tiling_drag_threshold", toString threshold]
  | .titleAlign alignment => spaced ["title_align", text alignment]
  | .unbindswitch switch state => spaced ["unbindswitch", switchEvent switch state]
  | .unbindsym key flags => spaced (["unbindsym"] ++ flags.slots ++ [key.render])
  | .unbindcode key flags => spaced (["unbindcode"] ++ flags.slots ++ [key.render])
  | .workspace target => spaced ["workspace", target.render]
  | .workspaceGaps target side amount =>
    spaced ["workspace", target.render, "gaps", text side, toString amount]
  | .workspaceOutputs target outputs =>
    spaced ["workspace", target.render, "output", Argument.separated " " outputs]
  | .workspaceAutoBackAndForth state => spaced ["workspace_auto_back_and_forth", text state]

end SwayControl
