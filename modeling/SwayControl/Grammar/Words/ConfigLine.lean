import SwayControl.Grammar.Keyword

/-!
Words of the lines that only a configuration file takes.
-/

namespace SwayControl

/-- The orientation of a new container. -/
inductive Orientation where
  | horizontal | vertical | auto
deriving DecidableEq, Repr

instance : Keyword Orientation where
  family := "Orientation"
  all := [.horizontal, .vertical, .auto]
  text
    | .horizontal => "horizontal"
    | .vertical => "vertical"
    | .auto => "auto"

/-- The layout of a new workspace. -/
inductive WorkspaceLayoutMode where
  | default | stacking | tabbed
deriving DecidableEq, Repr

instance : Keyword WorkspaceLayoutMode where
  family := "WorkspaceLayoutMode"
  all := [.default, .stacking, .tabbed]
  text
    | .default => "default"
    | .stacking => "stacking"
    | .tabbed => "tabbed"

/-- Whether the X11 server is started on demand, never, or at once. -/
inductive XwaylandMode where
  | enable | disable | force
deriving DecidableEq, Repr

instance : Keyword XwaylandMode where
  family := "XwaylandMode"
  all := [.enable, .disable, .force]
  text
    | .enable => "enable"
    | .disable => "disable"
    | .force => "force"

end SwayControl
