import SwayControl.Text.ShellWord

/-!
Examples of command lines. They are printed as they must be typed in a shell, one on each line.
-/

namespace SwayControl

def programName : String := "swaycmd"

def programVersion : String := "0.1.0"

/-- The arguments of one command line, after the name of the program. -/
abbrev Example := List String

/-- An example as it must be typed, indented by two spaces. -/
def exampleLine (arguments : Example) : String :=
  "  " ++ Text.shellLine (programName :: arguments)

def exampleLines (examples : List Example) : String :=
  "\n".intercalate (examples.map exampleLine)

end SwayControl
