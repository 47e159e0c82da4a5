import SwayControl.Grammar.Keyword

/-!
Words of the top-level commands.
-/

namespace SwayControl

/-- The keyboard layout group that a binding is restricted to. -/
inductive LayoutGroup where
  | none | group1 | group2 | group3 | group4
deriving DecidableEq, Repr

instance : Keyword LayoutGroup where
  family := "Group"
  all := [.none, .group1, .group2, .group3, .group4]
  text
    | .none => ""
    | .group1 => "Group1+"
    | .group2 => "Group2+"
    | .group3 => "Group3+"
    | .group4 => "Group4+"
  member
    | .none => "NONE"
    | .group1 => "GROUP1"
    | .group2 => "GROUP2"
    | .group3 => "GROUP3"
    | .group4 => "GROUP4"

inductive SwitchKind where
  | lid | tablet
deriving DecidableEq, Repr

instance : Keyword SwitchKind where
  family := "SwitchKind"
  all := [.lid, .tablet]
  text
    | .lid => "lid"
    | .tablet => "tablet"

inductive SwitchState where
  | on | off | toggle
deriving DecidableEq, Repr

instance : Keyword SwitchState where
  family := "SwitchState"
  all := [.on, .off, .toggle]
  text
    | .on => "on"
    | .off => "off"
    | .toggle => "toggle"

/-- The window state that a set of colours is for. -/
inductive ClientState where
  | focused | focusedInactive | focusedTabTitle | placeholder | unfocused | urgent
deriving DecidableEq, Repr

instance : Keyword ClientState where
  family := "ClientState"
  all := [.focused, .focusedInactive, .focusedTabTitle, .placeholder, .unfocused, .urgent]
  text
    | .focused => "focused"
    | .focusedInactive => "focused_inactive"
    | .focusedTabTitle => "focused_tab_title"
    | .placeholder => "placeholder"
    | .unfocused => "unfocused"
    | .urgent => "urgent"

/-- Which mouse button drags a floating window and which resizes it. -/
inductive FloatingModifierMode where
  | normal | inverse
deriving DecidableEq, Repr

instance : Keyword FloatingModifierMode where
  family := "FloatingModifierMode"
  all := [.normal, .inverse]
  text
    | .normal => "normal"
    | .inverse => "inverse"

/-- Whether the focus follows the mouse. -/
inductive MouseFocus where
  | yes | no | always
deriving DecidableEq, Repr

instance : Keyword MouseFocus where
  family := "MouseFocus"
  all := [.yes, .no, .always]
  text
    | .yes => "yes"
    | .no => "no"
    | .always => "always"

/-- What happens when a window asks to be activated. -/
inductive WindowActivation where
  | smart | urgent | focus | none
deriving DecidableEq, Repr

instance : Keyword WindowActivation where
  family := "WindowActivation"
  all := [.smart, .urgent, .focus, .none]
  text
    | .smart => "smart"
    | .urgent => "urgent"
    | .focus => "focus"
    | .none => "none"

/-- Whether the focus wraps around at the edge of a container. -/
inductive FocusWrap where
  | yes | no | force | workspace
deriving DecidableEq, Repr

instance : Keyword FocusWrap where
  family := "FocusWrap"
  all := [.yes, .no, .force, .workspace]
  text
    | .yes => "yes"
    | .no => "no"
    | .force => "force"
    | .workspace => "workspace"

/-- The borders that are hidden at the edges of the screen. -/
inductive EdgeBorderMode where
  | none | vertical | horizontal | both | smart | smartNoGaps
deriving DecidableEq, Repr

instance : Keyword EdgeBorderMode where
  family := "EdgeBorders"
  all := [.none, .vertical, .horizontal, .both, .smart, .smartNoGaps]
  text
    | .none => "none"
    | .vertical => "vertical"
    | .horizontal => "horizontal"
    | .both => "both"
    | .smart => "smart"
    | .smartNoGaps => "smart_no_gaps"

/-- When borders of a single window are hidden. -/
inductive SmartBorderMode where
  | on | noGaps | off
deriving DecidableEq, Repr

instance : Keyword SmartBorderMode where
  family := "SmartBorderMode"
  all := [.on, .noGaps, .off]
  text
    | .on => "on"
    | .noGaps => "no_gaps"
    | .off => "off"

/-- When gaps around a single window are left out. -/
inductive SmartGapMode where
  | on | off | toggle | inverseOuter
deriving DecidableEq, Repr

instance : Keyword SmartGapMode where
  family := "SmartGapsMode"
  all := [.on, .off, .toggle, .inverseOuter]
  text
    | .on => "on"
    | .off => "off"
    | .toggle => "toggle"
    | .inverseOuter => "inverse_outer"

/-- When the mouse pointer jumps to the focus. -/
inductive MouseWarp where
  | output | container | none
deriving DecidableEq, Repr

instance : Keyword MouseWarp where
  family := "MouseWarp"
  all := [.output, .container, .none]
  text
    | .output => "output"
    | .container => "container"
    | .none => "none"

/-- What happens to popups of a fullscreen window. -/
inductive PopupPolicy where
  | smart | ignore | leaveFullscreen
deriving DecidableEq, Repr

instance : Keyword PopupPolicy where
  family := "PopupPolicy"
  all := [.smart, .ignore, .leaveFullscreen]
  text
    | .smart => "smart"
    | .ignore => "ignore"
    | .leaveFullscreen => "leave_fullscreen"

/-- Where a title stands in its bar. -/
inductive Alignment where
  | left | center | right
deriving DecidableEq, Repr

instance : Keyword Alignment where
  family := "Alignment"
  all := [.left, .center, .right]
  text
    | .left => "left"
    | .center => "center"
    | .right => "right"

end SwayControl
