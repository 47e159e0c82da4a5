/-!
Options of a command line. An option is called by its name or by one letter; it is either a switch or
carries a value, and commands describe theirs by records.
-/

namespace SwayControl

/-- Options that are given or not. -/
inductive OptionSwitch where
  | version | json | quiet | verbose | logJson | dryRun | byNumber | examples | help
deriving DecidableEq, Repr

/-- Options that carry a value. -/
inductive OptionCarrier where
  | config | socket | number
deriving DecidableEq, Repr

/-- What an option is: a switch, or the carrier of a value that help texts call by a placeholder. -/
inductive OptionKind where
  | switch (s : OptionSwitch)
  | carrier (c : OptionCarrier) (placeholder : String)
deriving DecidableEq, Repr

/-- An option of a command: how it is called, and the line that help texts have for it. -/
structure OptionSpec where
  kind : OptionKind
  letter : Option Char
  name : String
  help : String
deriving DecidableEq, Repr

inductive Given where
  | switch (s : OptionSwitch)
  | value (c : OptionCarrier) (text : String)
deriving DecidableEq, Repr

namespace OptionSpec

def letterName (letter : Char) : String := "-" ++ String.singleton letter

/-- How an option is typed, with all its names and its placeholder. -/
def typed (spec : OptionSpec) : String :=
  let names := ", ".intercalate ((spec.letter.map letterName).toList ++ [spec.name])
  match spec.kind with
  | .switch _ => names
  | .carrier _ placeholder => names ++ " " ++ placeholder

end OptionSpec

namespace Given

/-- The value that options give a carrier; of several the last counts. -/
def valueOf (given : List Given) (carrier : OptionCarrier) : Option String :=
  given.reverse.findSome? fun
    | .value c text => if c = carrier then some text else none
    | .switch _ => none

def has (given : List Given) (s : OptionSwitch) : Bool := given.contains (.switch s)

/-- The switches that end a command line as soon as it is read. -/
def eager : List OptionSwitch := [.version, .examples, .help]

def firstEager (given : List Given) : Option OptionSwitch :=
  given.findSome? fun
    | .switch s => if s ∈ eager then some s else none
    | .value _ _ => none

end Given

end SwayControl
