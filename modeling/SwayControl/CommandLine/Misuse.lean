import SwayControl.Text.Quoted

/-!
Misuses of a command line, by cause, and what they are told by.
-/

namespace SwayControl

/-- Why words are no command line. -/
inductive Misuse where
  | unknownOption (name : String) (alike : List String)
  | unknownCommand (name : String) (alike : List String)
  | missingValue (name : String)
  | unexpectedValue (name : String)
  | missingOperand (label : String)
  | extraOperands (words : List String)
  | noInteger (name value : String)
  | numberRequired
deriving DecidableEq, Repr

namespace Misuse

/-- The end of a message that offers names which are like the one that was typed. -/
def offer : List String → String
  | [] => ""
  | [name] => " Did you mean " ++ Text.quoted name ++ "?"
  | names => " (Did you mean one of: " ++ ", ".intercalate (names.map Text.quoted) ++ "?)"

def message : Misuse → String
  | .unknownOption name alike => "No such option " ++ Text.quoted name ++ "." ++ offer alike
  | .unknownCommand name alike => "No such command " ++ Text.quoted name ++ "." ++ offer alike
  | .missingValue name => "Option " ++ Text.quoted name ++ " requires an argument."
  | .unexpectedValue name => "Option " ++ Text.quoted name ++ " does not take a value."
  | .missingOperand label => "Missing argument '" ++ label ++ "'."
  | .extraOperands words =>
    "Got unexpected extra argument" ++ (if words.length == 1 then "" else "s") ++ " (" ++
      " ".intercalate words ++ ")"
  | .noInteger name value =>
    "Invalid value for '" ++ name ++ "': " ++ Text.quoted value ++ " is not a valid integer."
  | .numberRequired => "--by-number requires --number."

/-- Whether the usage of the command is shown in front of the message. Where only the value of an
option is at fault, it is not. -/
def showsUsage : Misuse → Bool
  | .missingValue _ | .unexpectedValue _ => false
  | _ => true

end Misuse

end SwayControl
