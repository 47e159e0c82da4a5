import SwayControl.Grammar.Slot
import SwayControl.Grammar.Words.Shared
import SwayControl.Number.Basic
import SwayControl.Text.Hexadecimal

/-!
Arguments: the values that any command family may take. Lengths, colours, outputs and workspaces are
written by one function; a slot that takes an argument takes any of them.
-/

namespace SwayControl

/-- An amount in pixels, hundredths of the screen, or the unit a container uses by default. -/
structure Length where
  amount : Number
  unit : Option LengthUnit
deriving DecidableEq, Repr

/-- A colour of three components of eight bits, and a fourth for its opacity if given. -/
structure Color where
  red : Fin 256
  green : Fin 256
  blue : Fin 256
  alpha : Option (Fin 256)
deriving DecidableEq, Repr

/-- The name of a workspace, with its number in front if given. -/
structure WorkspaceName where
  name : String
  number : Option Int
deriving DecidableEq, Repr

/-- An argument of a command. `focused` stands for the same value as the focused window has, and
`workspaceNumber` for a workspace that is found by its number alone. -/
inductive Argument where
  | focused
  | word (text : String)
  | flag (on : Bool)
  | number (n : Number)
  | color (c : Color)
  | length (l : Length)
  | output (name : String)
  | workspace (w : WorkspaceName)
  | workspaceNumber (of : Argument)
deriving DecidableEq, Repr

/-- How a truth value is written where a number or a name could stand. -/
def flagText (on : Bool) : String := if on then "True" else "False"

/-- The amount, and its unit after a space if it has one. -/
def Length.render (l : Length) : String :=
  match l.unit with
  | none => l.amount.render
  | some unit => spaced [l.amount.render, Keyword.text unit]

/-- The components of a colour in their order, the opacity last if it is given. -/
def Color.components (c : Color) : List (Fin 256) :=
  [c.red, c.green, c.blue] ++ c.alpha.toList

/-- A number sign and two capital hexadecimal digits for each component. -/
def Color.render (c : Color) : String :=
  String.ofList ('#' :: c.components.flatMap fun component => Text.hexDigits true 2 component.val)

/-- The name, after the number and a colon if there is a number. -/
def WorkspaceName.render (w : WorkspaceName) : String :=
  match w.number with
  | none => w.name
  | some number => toString number ++ ":" ++ w.name

/-- The token that stands for the value of the focused window. -/
def focusedToken : String := "__focused__"

namespace Argument

def render : Argument → String
  | .focused => focusedToken
  | .word text => text
  | .flag on => flagText on
  | .number n => n.render
  | .color c => c.render
  | .length l => l.render
  | .output name => name
  | .workspace w => w.render
  | .workspaceNumber inner => "number " ++ inner.render

/-- An optional argument: the empty text where it is absent. -/
def renderOptional (argument : Option Argument) : String := argument.elim "" render

/-- Arguments with a separator between neighbours, and none after the last. -/
def separated (separator : String) (arguments : List Argument) : String :=
  separator.intercalate (arguments.map render)

end Argument

end SwayControl
