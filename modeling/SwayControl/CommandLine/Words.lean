import SwayControl.CommandLine.Misuse
import SwayControl.CommandLine.Option
import SwayControl.Text.Likeness

/-!
Reading the words of a command line. A word that begins with a dash gives options: one by its name, with
its value after an equals sign, or several by their letters. An option whose value is not in its own
word takes the next word, whatever that is. Two dashes alone end the options.
-/

namespace SwayControl

/-- What words give: the options in their order, and the words that are none. -/
structure Arguments where
  given : List Given
  operands : List String
deriving DecidableEq, Repr

/-- What a word of options gives, and the carrier that waits for the next word, with the name that it
was called by. -/
structure WordReading where
  given : List Given
  waiting : Option (OptionCarrier × String)
deriving DecidableEq, Repr

/-- Whether a word gives options. -/
def isOptionWord (word : String) : Bool :=
  match word.toList with
  | '-' :: _ :: _ => true
  | _ => false

/-- The part of a word before its first equals sign, and the part behind it if there is one. -/
def splitValue (word : String) : String × Option String :=
  match word.toList.span (· != '=') with
  | (name, []) => (String.ofList name, none)
  | (name, _ :: value) => (String.ofList name, some (String.ofList value))

/-- Reads an option that is called by its name. -/
def readNamed (spec : OptionSpec) (name : String) (value : Option String) :
    Except Misuse WordReading :=
  match spec.kind, value with
  | .switch s, none => .ok ⟨[.switch s], none⟩
  | .switch _, some _ => .error (.unexpectedValue name)
  | .carrier c _, none => .ok ⟨[], some (c, name)⟩
  | .carrier c _, some text => .ok ⟨[.value c text], none⟩

/-- Reads options that are called by their letters. What follows the letter of a carrier is its
value. -/
def readLetters (options : List OptionSpec) : List Char → Except Misuse WordReading
  | [] => .ok ⟨[], none⟩
  | letter :: rest =>
    match options.find? fun spec => spec.letter == some letter with
    | none => .error (.unknownOption (OptionSpec.letterName letter) [])
    | some spec =>
      match spec.kind with
      | .switch s =>
        (readLetters options rest).map fun reading =>
          { reading with given := .switch s :: reading.given }
      | .carrier c _ =>
        if rest.isEmpty then .ok ⟨[], some (c, OptionSpec.letterName letter)⟩
        else .ok ⟨[.value c (String.ofList rest)], none⟩

def readOptionWord (options : List OptionSpec) (word : String) : Except Misuse WordReading :=
  let (name, value) := splitValue word
  match options.find? fun spec => spec.name == name with
  | some spec => readNamed spec name value
  | none =>
    -- A word with one hyphen may still be letters; with two it is a name that no option has.
    if word.startsWith "--" then
      .error (.unknownOption name (Text.alikeNames name (options.map OptionSpec.name)))
    else readLetters options (word.toList.drop 1)

def Arguments.after (given : List Given) (rest : Arguments) : Arguments :=
  { rest with given := given ++ rest.given }

/-- Reads words. If options may stand among the operands, the first operand does not end them. -/
def readWords (options : List OptionSpec) (mixed : Bool) : List String → Except Misuse Arguments
  | [] => .ok ⟨[], []⟩
  | word :: rest =>
    -- Two hyphens alone end the options.
    if word == "--" then .ok ⟨[], rest⟩
    else if isOptionWord word then
      match readOptionWord options word, rest with
      | .error misuse, _ => .error misuse
      | .ok ⟨given, none⟩, rest => (readWords options mixed rest).map (Arguments.after given)
      | .ok ⟨_, some (_, name)⟩, [] => .error (.missingValue name)
      | .ok ⟨given, some (carrier, _)⟩, value :: rest =>
        (readWords options mixed rest).map (Arguments.after (given ++ [.value carrier value]))
    else if mixed then
      (readWords options mixed rest).map fun arguments =>
        { arguments with operands := word :: arguments.operands }
    else .ok ⟨[], word :: rest⟩

end SwayControl
