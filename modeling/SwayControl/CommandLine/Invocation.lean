import SwayControl.CommandLine.Help
import SwayControl.CommandLine.Words
import SwayControl.Number.Typed

/-!
Invocations: what a command line asks for. The options of the program come before the name of a
command, and the words behind that name are for the command.
-/

namespace SwayControl

structure Globals where
  json : Bool
  quiet : Bool
  verbose : Bool
  logJson : Bool
  config : Option String
  socket : Option String
deriving DecidableEq, Repr

/-- A command line up to the name of its command, and the words for that. -/
structure Invocation where
  globals : Globals
  command : Option (CommandName × List String)
deriving DecidableEq, Repr

inductive Action where
  | render (commands : List String)
  | run (commands : List String) (dryRun : Bool)
  | version
  | workspace (name : String) (number : Option Int) (byNumber dryRun : Bool)
deriving DecidableEq, Repr

/-- The options of the program among those that are given. -/
def Globals.ofGiven (given : List Given) : Globals where
  json := Given.has given .json
  quiet := Given.has given .quiet
  verbose := Given.has given .verbose
  logJson := Given.has given .logJson
  config := Given.valueOf given .config
  socket := Given.valueOf given .socket

/-- The text that a switch asks for, if it is one that ends the command line. -/
def CommandSpec.textFor (spec : CommandSpec) : OptionSwitch → Option String
  | .version => some Help.version
  | .examples => some (Help.examples spec)
  | .help => some (Help.text spec)
  | _ => none

/-- Reads the words for a command up to the first switch that ends it. -/
def CommandSpec.read (spec : CommandSpec) (mixed : Bool) (words : List String) :
    Except Halt Arguments :=
  match readWords spec.options mixed words with
  | .error m => .error (.misused spec m)
  | .ok arguments =>
    match (Given.firstEager arguments.given).bind spec.textFor with
    | some text => .error (.shows text)
    | none => .ok arguments

/-- Reads a command line up to the name of its command. Where the name is none, the words from it on are
read once more for options, which may end the command line as well. -/
def Invocation.read (words : List String) : Except Halt Invocation := do
  let ⟨given, operands⟩ ← programSpec.read false words
  let globals := Globals.ofGiven given
  match operands with
  | [] => return ⟨globals, none⟩
  | name :: rest =>
    match CommandName.ofText? name with
    | some command => return ⟨globals, some (command, rest)⟩
    | none =>
      -- Read for its faults and for switches that end the command line; what it gives is not used.
      let _ ← programSpec.read false operands
      throw (.misused programSpec
        (.unknownCommand name (Text.alikeNames name (CommandName.all.map CommandName.text))))

/-- The number of a workspace that options give. -/
def workspaceNumber? (given : List Given) : Except Misuse (Option Int) :=
  match Given.valueOf given .number with
  | none => .ok none
  | some text =>
    match typedInteger? text.toList with
    | some number => .ok (some number)
    | none => .error (.noInteger numberOption.name text)

/-- The commands of a batch, of which there must be one or more. -/
def batchOperands : List String → Except Misuse (List String)
  | [] => .error (.missingOperand (repeatedLabel commandsLabel))
  | operands => .ok operands

/-- The name of a workspace, which must be the only operand. -/
def nameOperand : List String → Except Misuse String
  | [] => .error (.missingOperand nameLabel)
  | [operand] => .ok operand
  | _ :: rest => .error (.extraOperands rest)

def noOperands : List String → Except Misuse Unit
  | [] => .ok ()
  | operands => .error (.extraOperands operands)

/-- What a workspace command is asked for. Its number is read before its operands. -/
def readWorkspace (arguments : Arguments) : Except Misuse Action := do
  let number ← workspaceNumber? arguments.given
  let name ← nameOperand arguments.operands
  let byNumber := Given.has arguments.given .byNumber
  if byNumber && number.isNone then throw .numberRequired
  return .workspace name number byNumber (Given.has arguments.given .dryRun)

def CommandName.action (command : CommandName) (arguments : Arguments) : Except Misuse Action :=
  match command with
  | .render => Action.render <$> batchOperands arguments.operands
  | .run => do
    let commands ← batchOperands arguments.operands
    return .run commands (Given.has arguments.given .dryRun)
  | .version => do
    noOperands arguments.operands
    return .version
  | .workspace => readWorkspace arguments

def Action.read (command : CommandName) (words : List String) : Except Halt Action := do
  let arguments ← command.spec.read true words
  (command.action arguments).mapError (.misused command.spec)

end SwayControl
