import SwayControl.Grammar.Keyword

/-!
Words of the commands for one window.
-/

namespace SwayControl

inductive BorderKind where
  | none | normal | csd | pixel | toggle
deriving DecidableEq, Repr

instance : Keyword BorderKind where
  family := "BorderKind"
  all := [.none, .normal, .csd, .pixel, .toggle]
  text
    | .none => "none"
    | .normal => "normal"
    | .csd => "csd"
    | .pixel => "pixel"
    | .toggle => "toggle"

/-- What to focus when no further argument is needed; `here` is the window the criteria select
and leaves its slot blank. -/
inductive FocusPlace where
  | here | up | right | down | left | child | parent | tiling | floating | modeToggle
deriving DecidableEq, Repr

instance : Keyword FocusPlace where
  family := "FocusTarget"
  all := [.here, .up, .right, .down, .left, .child, .parent, .tiling, .floating, .modeToggle]
  text
    | .here => ""
    | .up => "up"
    | .right => "right"
    | .down => "down"
    | .left => "left"
    | .child => "child"
    | .parent => "parent"
    | .tiling => "tiling"
    | .floating => "floating"
    | .modeToggle => "mode_toggle"
  member
    | .here => "THIS"
    | .up => "UP"
    | .right => "RIGHT"
    | .down => "DOWN"
    | .left => "LEFT"
    | .child => "CHILD"
    | .parent => "PARENT"
    | .tiling => "TILING"
    | .floating => "FLOATING"
    | .modeToggle => "MODE_TOGGLE"

/-- A direction in a list of containers. -/
inductive Cycle where
  | prev | next
deriving DecidableEq, Repr

instance : Keyword Cycle where
  family := "Cycle"
  all := [.prev, .next]
  text
    | .prev => "prev"
    | .next => "next"

/-- Whether a gaps command is for all workspaces or the current one. -/
inductive GapScope where
  | all | current
deriving DecidableEq, Repr

instance : Keyword GapScope where
  family := "GapsScope"
  all := [.all, .current]
  text
    | .all => "all"
    | .current => "current"

/-- How a gaps command uses its amount. -/
inductive GapChange where
  | set | plus | minus | toggle
deriving DecidableEq, Repr

instance : Keyword GapChange where
  family := "GapsChange"
  all := [.set, .plus, .minus, .toggle]
  text
    | .set => "set"
    | .plus => "plus"
    | .minus => "minus"
    | .toggle => "toggle"

/-- When a window keeps the session from going idle. -/
inductive IdleInhibit where
  | focus | fullscreen | opened | none | visible
deriving DecidableEq, Repr

instance : Keyword IdleInhibit where
  family := "IdleInhibit"
  all := [.focus, .fullscreen, .opened, .none, .visible]
  text
    | .focus => "focus"
    | .fullscreen => "fullscreen"
    | .opened => "open"
    | .none => "none"
    | .visible => "visible"

inductive LayoutMode where
  | default | splith | splitv | stacking | tabbed
deriving DecidableEq, Repr

instance : Keyword LayoutMode where
  family := "LayoutMode"
  all := [.default, .splith, .splitv, .stacking, .tabbed]
  text
    | .default => "default"
    | .splith => "splith"
    | .splitv => "splitv"
    | .stacking => "stacking"
    | .tabbed => "tabbed"

/-- The preset cycles of `layout toggle`. -/
inductive LayoutCycle where
  | split | all
deriving DecidableEq, Repr

instance : Keyword LayoutCycle where
  family := "LayoutCycle"
  all := [.split, .all]
  text
    | .split => "split"
    | .all => "all"

/-- The layouts that a `layout toggle` list may name. -/
inductive LayoutOption where
  | split | tabbed | stacking | splitv | splith
deriving DecidableEq, Repr

instance : Keyword LayoutOption where
  family := "LayoutOption"
  all := [.split, .tabbed, .stacking, .splitv, .splith]
  text
    | .split => "split"
    | .tabbed => "tabbed"
    | .stacking => "stacking"
    | .splitv => "splitv"
    | .splith => "splith"

/-- Whether a mark replaces the others and whether it is flipped. -/
inductive MarkMode where
  | add | addToggle | replace | replaceToggle
deriving DecidableEq, Repr

instance : Keyword MarkMode where
  family := "MarkMode"
  all := [.add, .addToggle, .replace, .replaceToggle]
  text
    | .add => "--add"
    | .addToggle => "--add --toggle"
    | .replace => "--replace"
    | .replaceToggle => "--replace --toggle"
  member
    | .add => "ADD"
    | .addToggle => "ADD_TOGGLE"
    | .replace => "REPLACE"
    | .replaceToggle => "REPLACE_TOGGLE"

/-- How an opacity command uses its value. -/
inductive OpacityChange where
  | set | plus | minus
deriving DecidableEq, Repr

instance : Keyword OpacityChange where
  family := "OpacityChange"
  all := [.set, .plus, .minus]
  text
    | .set => "set"
    | .plus => "plus"
    | .minus => "minus"

inductive ResizeAction where
  | grow | shrink
deriving DecidableEq, Repr

instance : Keyword ResizeAction where
  family := "ResizeAction"
  all := [.grow, .shrink]
  text
    | .grow => "grow"
    | .shrink => "shrink"

inductive Dimension where
  | width | height
deriving DecidableEq, Repr

instance : Keyword Dimension where
  family := "Dimension"
  all := [.width, .height]
  text
    | .width => "width"
    | .height => "height"

inductive SplitMode where
  | vertical | horizontal | none | toggle
deriving DecidableEq, Repr

instance : Keyword SplitMode where
  family := "SplitMode"
  all := [.vertical, .horizontal, .none, .toggle]
  text
    | .vertical => "vertical"
    | .horizontal => "horizontal"
    | .none => "none"
    | .toggle => "toggle"

/-- How the container to swap with is named. -/
inductive SwapKind where
  | id | conId | mark
deriving DecidableEq, Repr

instance : Keyword SwapKind where
  family := "SwapKind"
  all := [.id, .conId, .mark]
  text
    | .id => "id"
    | .conId => "con_id"
    | .mark => "mark"

/-- What becomes of a window's urgency hint. -/
inductive UrgentAction where
  | enable | disable | allow | deny
deriving DecidableEq, Repr

instance : Keyword UrgentAction where
  family := "UrgentAction"
  all := [.enable, .disable, .allow, .deny]
  text
    | .enable => "enable"
    | .disable => "disable"
    | .allow => "allow"
    | .deny => "deny"

/-- The places to move to that need no further argument. -/
inductive MovePlacement where
  | positionCenter | absolutePositionCenter | positionCursor | scratchpad
deriving DecidableEq, Repr

instance : Keyword MovePlacement where
  family := "MovePlacement"
  all := [.positionCenter, .absolutePositionCenter, .positionCursor, .scratchpad]
  text
    | .positionCenter => "position center"
    | .absolutePositionCenter => "absolute position center"
    | .positionCursor => "position cursor"
    | .scratchpad => "container to scratchpad"
  member
    | .positionCenter => "POSITION_CENTER"
    | .absolutePositionCenter => "ABSOLUTE_POSITION_CENTER"
    | .positionCursor => "POSITION_CURSOR"
    | .scratchpad => "SCRATCHPAD"

end SwayControl
