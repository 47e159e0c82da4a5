import SwayControl.Grammar.Argument
import SwayControl.Grammar.Words.ConfigLine

/-!
Lines that only the configuration file takes; the running window manager refuses them.
-/

namespace SwayControl

inductive ConfigLine where
  | bar (identifier : Option Argument) (subcommands : List Argument)
  | defaultOrientation (orientation : Orientation)
  | includeFile (path : String)
  | swaybgCommand (command : String)
  | swaynagCommand (command : String)
  | workspaceLayout (mode : WorkspaceLayoutMode)
  | xwayland (mode : XwaylandMode)
deriving DecidableEq, Repr

open Keyword (text)

def ConfigLine.render : ConfigLine → String
  | .bar identifier subcommands =>
    spaced ["bar", Argument.renderOptional identifier, Argument.separated " " subcommands]
  | .defaultOrientation orientation => spaced ["default_orientation", text orientation]
  | .includeFile path => spaced ["include", path]
  | .swaybgCommand command => spaced ["swaybg_command", command]
  | .swaynagCommand command => spaced ["swaynag_command", command]
  | .workspaceLayout mode => spaced ["workspace_layout", text mode]
  | .xwayland mode => spaced ["xwayland", text mode]

end SwayControl
