import SwayControl.Grammar.Keyword

/-!
Words that slots of several commands share.
-/

namespace SwayControl

inductive Switch where
  | enable | disable
deriving DecidableEq, Repr

instance : Keyword Switch where
  family := "EnDisable"
  all := [.enable, .disable]
  text
    | .enable => "enable"
    | .disable => "disable"

/-- A setting that is switched on, switched off, or flipped. -/
inductive Toggle where
  | enable | disable | toggle
deriving DecidableEq, Repr

instance : Keyword Toggle where
  family := "EnDisTog"
  all := [.enable, .disable, .toggle]
  text
    | .enable => "enable"
    | .disable => "disable"
    | .toggle => "toggle"

/-- An answer to a yes-or-no setting. -/
inductive YesNo where
  | yes | no
deriving DecidableEq, Repr

instance : Keyword YesNo where
  family := "YesNo"
  all := [.yes, .no]
  text
    | .yes => "yes"
    | .no => "no"

/-- The gaps that a gaps command changes. -/
inductive GapSide where
  | inner | outer | horizontal | vertical | top | right | bottom | left
deriving DecidableEq, Repr

instance : Keyword GapSide where
  family := "GapsDirection"
  all := [.inner, .outer, .horizontal, .vertical, .top, .right, .bottom, .left]
  text
    | .inner => "inner"
    | .outer => "outer"
    | .horizontal => "horizontal"
    | .vertical => "vertical"
    | .top => "top"
    | .right => "right"
    | .bottom => "bottom"
    | .left => "left"

inductive Direction where
  | up | right | down | left
deriving DecidableEq, Repr

instance : Keyword Direction where
  family := "Direction"
  all := [.up, .right, .down, .left]
  text
    | .up => "up"
    | .right => "right"
    | .down => "down"
    | .left => "left"

/-- An output named by where it lies from the focused one. -/
inductive OutputDirection where
  | up | right | down | left | current
deriving DecidableEq, Repr

instance : Keyword OutputDirection where
  family := "OutputDirection"
  all := [.up, .right, .down, .left, .current]
  text
    | .up => "up"
    | .right => "right"
    | .down => "down"
    | .left => "left"
    | .current => "current"

/-- A workspace named by where it lies from the focused one. -/
inductive WorkspaceStep where
  | prev | next | current | prevOnOutput | nextOnOutput | backAndForth
deriving DecidableEq, Repr

instance : Keyword WorkspaceStep where
  family := "WorkspaceStep"
  all := [.prev, .next, .current, .prevOnOutput, .nextOnOutput, .backAndForth]
  text
    | .prev => "prev"
    | .next => "next"
    | .current => "current"
    | .prevOnOutput => "prev_on_output"
    | .nextOnOutput => "next_on_output"
    | .backAndForth => "back_and_forth"

/-- Pixels, or hundredths of the screen. -/
inductive LengthUnit where
  | px | ppt
deriving DecidableEq, Repr

instance : Keyword LengthUnit where
  family := "LengthUnit"
  all := [.px, .ppt]
  text
    | .px => "px"
    | .ppt => "ppt"

end SwayControl
