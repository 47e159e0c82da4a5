import SwayControl.Grammar.Argument
import SwayControl.Grammar.Words.Criterion

/-!
Criteria: conditions that select the windows a command is for. A clause of criteria is written between
brackets with one space between neighbours; values stand between their quotes unescaped.
-/

namespace SwayControl

/-- The properties of a window that a criterion can ask for. -/
inductive CriterionKey where
  | appId | windowClass | conId | conMark | id | windowInstance | pid | shell | title | urgent
  | windowRole | windowType | workspace
deriving DecidableEq, Repr

def CriterionKey.text : CriterionKey → String
  | .appId => "app_id"
  | .windowClass => "class"
  | .conId => "con_id"
  | .conMark => "con_mark"
  | .id => "id"
  | .windowInstance => "instance"
  | .pid => "pid"
  | .shell => "shell"
  | .title => "title"
  | .urgent => "urgent"
  | .windowRole => "window_role"
  | .windowType => "window_type"
  | .workspace => "workspace"

/-- One condition: the window floats, it is tiled, or a property of it matches a value. -/
inductive Criterion where
  | floating
  | tiling
  | property (key : CriterionKey) (value : Argument)
deriving DecidableEq, Repr

/-- One criterion, without brackets. -/
def Criterion.render : Criterion → String
  | .floating => "floating"
  | .tiling => "tiling"
  | .property key value => key.text ++ "=\"" ++ value.render ++ "\""

/-- A clause of criteria that are already written. -/
def bracketed (criteria : List String) : String := "[" ++ spaced criteria ++ "]"

end SwayControl
