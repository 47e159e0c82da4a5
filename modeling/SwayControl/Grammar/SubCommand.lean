import SwayControl.Grammar.Argument
import SwayControl.Grammar.Words.Window

/-!
Sub-commands: operations on the focused window or on those that a clause of criteria selects.
-/

namespace SwayControl

/-- A kind of border, and its thickness for the kinds that take one. -/
structure BorderStyle where
  kind : BorderKind
  thickness : Option Argument
deriving DecidableEq, Repr

/-- What to focus: the next or previous container, an output, or a place. -/
inductive FocusTarget where
  | cycle (direction : Cycle) (sibling : Bool)
  | output (name : Argument)
  | place (target : Argument)
deriving DecidableEq, Repr

/-- Which layout to take: one by name, or the next of a list, of a preset cycle, or of the default
cycle. -/
inductive LayoutTarget where
  | toggle
  | toggleOver (cycle : Argument)
  | toggleAmong (options : List Argument)
  | mode (name : Argument)
deriving DecidableEq, Repr

/-- Where a window or workspace moves. -/
inductive MoveTarget where
  | direction (way : Direction) (pixels : Int)
  | position (x y : Argument)
  | absolutePosition (x y : Int)
  | toMark (mark : String)
  | toWorkspace (workspace : Argument) (noAutoBackAndForth : Bool)
  | containerToOutput (output : Argument)
  | workspaceToOutput (output : Argument)
  | place (target : Argument)
deriving DecidableEq, Repr

/-- How a window is resized: by an amount in one dimension, or to a size in one or both. -/
inductive Resize where
  | by (action : ResizeAction) (dimension : Dimension) (amount : Argument)
  | width (size : Option Argument)
  | height (size : Argument)
  | both (across down : Argument)
deriving DecidableEq, Repr

inductive SubCommand where
  | border (style : BorderStyle)
  | exit
  | floating (state : Toggle)
  | focus (target : FocusTarget)
  | fullscreen (state : Toggle) (everyOutput : Bool)
  | gaps (side : GapSide) (scope : GapScope) (change : GapChange) (amount : Int)
  | inhibitIdle (mode : IdleInhibit)
  | kill
  | layout (target : LayoutTarget)
  | mark (identifier : String) (mode : MarkMode)
  | maxRenderTime (milliseconds : Option Int)
  | move (target : MoveTarget)
  | nop (comment : Option Argument)
  | opacity (change : OpacityChange) (value : Number)
  | reload
  | renameWorkspace (newName : String) (oldName : Option String)
  | resize (change : Resize)
  | scratchpadShow
  | shortcutsInhibitor (state : Switch)
  | split (mode : SplitMode)
  | sticky (state : Toggle)
  | swap (kind : SwapKind) (value : String)
  | titleFormat (format : String)
  | unmark (identifier : Option Argument)
  | urgentHint (action : UrgentAction)
deriving DecidableEq, Repr

open Keyword (text)

/-- The kind, and a slot for the thickness where the kind takes one. -/
def BorderStyle.render (style : BorderStyle) : String :=
  match style.kind with
  | .normal | .pixel => spaced [text style.kind, Argument.renderOptional style.thickness]
  | _ => text style.kind

/-- The slots after `focus`. -/
def FocusTarget.render : FocusTarget → String
  | .cycle direction sibling => spaced [text direction, tokenIf sibling "sibling"]
  | .output name => spaced ["output", name.render]
  | .place target => target.render

def LayoutTarget.render : LayoutTarget → String
  | .toggle => spaced ["toggle", ""]
  | .toggleOver cycle => spaced ["toggle", cycle.render]
  | .toggleAmong options => spaced ["toggle", Argument.separated " " options]
  | .mode name => name.render

def MoveTarget.render : MoveTarget → String
  | .direction way pixels => spaced [text way, toString pixels, "px"]
  | .position x y => spaced ["position", x.render, y.render]
  | .absolutePosition x y => spaced ["absolute position", toString x, "px", toString y, "px"]
  | .toMark mark => spaced ["container to mark", mark]
  | .toWorkspace workspace noAutoBackAndForth =>
    tokenIf noAutoBackAndForth "--no-auto-back-and-forth " ++
      spaced ["container to workspace", workspace.render]
  | .containerToOutput output => spaced ["container to output", output.render]
  | .workspaceToOutput output => spaced ["workspace to output", output.render]
  | .place target => target.render

def Resize.render : Resize → String
  | .by action dimension amount => spaced [text action, text dimension, amount.render]
  | .width size => spaced ["set width", Argument.renderOptional size]
  | .height size => spaced ["set height", size.render]
  | .both across down => spaced ["set width", across.render, "height", down.render]

def SubCommand.render : SubCommand → String
  | .border style => spaced ["border", style.render]
  | .exit => "exit"
  | .floating state => spaced ["floating", text state]
  | .focus target => spaced ["focus", target.render]
  | .fullscreen state everyOutput => spaced ["fullscreen", text state, tokenIf everyOutput "global"]
  | .gaps side scope change amount =>
    spaced ["gaps", text side, text scope, text change, toString amount]
  | .inhibitIdle mode => spaced ["inhibit_idle", text mode]
  | .kill => "kill"
  | .layout target => spaced ["layout", target.render]
  | .mark identifier mode => spaced ["mark", text mode, identifier]
  | .maxRenderTime milliseconds => spaced ["max_render_time", milliseconds.elim "off" toString]
  | .move target => spaced ["move", target.render]
  | .nop comment => spaced ["nop", Argument.renderOptional comment]
  | .opacity change value => spaced ["opacity", text change, value.render]
  | .reload => "reload"
  | .renameWorkspace newName none => spaced ["rename workspace to", newName]
  | .renameWorkspace newName (some oldName) => spaced ["rename workspace", oldName, "to", newName]
  | .resize change => spaced ["resize", change.render]
  | .scratchpadShow => "scratchpad show"
  | .shortcutsInhibitor state => spaced ["shortcuts_inhibitor", text state]
  | .split mode => spaced ["split", text mode]
  | .sticky state => spaced ["sticky", text state]
  | .swap kind value => spaced ["swap container with", text kind, value]
  | .titleFormat format => spaced ["title_format", format]
  | .unmark identifier => spaced ["unmark", Argument.renderOptional identifier]
  | .urgentHint action => spaced ["urgent", text action]

end SwayControl
