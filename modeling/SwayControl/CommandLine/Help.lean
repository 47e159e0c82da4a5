import SwayControl.CommandLine.Command
import SwayControl.CommandLine.Misuse
import SwayControl.Report.Emission

/-!
What the program tells those who call it about itself: usage, help and examples of a command, its
version, and what is wrong with a command line.
-/

namespace SwayControl

/-- How operands of which there may be many stand in the usage of a command. -/
def repeatedLabel (label : String) : String := label ++ "..."

def Operands.usage : Operands → List String
  | .nothing => []
  | .single label => [label]
  | .several label => [repeatedLabel label]
  | .command => ["[COMMAND]", "[ARGS]..."]

namespace Help

/-- Rows of two columns, the second of which begins two characters after the longest of the first. -/
def rows (entries : List (String × String)) : List String :=
  let width := entries.foldl (fun width entry => max width entry.1.length) 0
  entries.map fun (term, text) =>
    "  " ++ term ++ String.ofList (List.replicate (width + 2 - term.length) ' ') ++ text

def usage (spec : CommandSpec) : String :=
  "Usage: " ++ " ".intercalate ([spec.path, "[OPTIONS]"] ++ spec.operands.usage)

def commandList (spec : CommandSpec) : List String :=
  match spec.operands with
  | .command =>
    ["", "Commands:"] ++ rows (CommandName.all.map fun command => (command.text, command.summary))
  | _ => []

def text (spec : CommandSpec) : String :=
  "\n".intercalate <|
    [usage spec, "", "  " ++ spec.summary, "", "Options:"] ++
      rows (spec.options.map fun option => (option.typed, option.help)) ++ commandList spec

def examples (spec : CommandSpec) : String :=
  "Examples for '" ++ spec.path ++ "':\n\n" ++ exampleLines spec.examples

def version : String := programName ++ ", version " ++ programVersion

def misuse (spec : CommandSpec) (m : Misuse) : String :=
  let hint := "Try '" ++ spec.path ++ " --help' for help."
  (if m.showsUsage then usage spec ++ "\n" ++ hint ++ "\n\n" else "") ++ "Error: " ++ m.message

end Help

/-- Why a command line ends before its command begins: it asks for a text, or it is misused. -/
inductive Halt where
  | shows (text : String)
  | misused (spec : CommandSpec) (m : Misuse)
deriving DecidableEq, Repr

def misuseStatus : Nat := 2

/-- What a command line that ends leaves behind. -/
def Halt.emission : Halt → Emission
  | .shows text => ⟨0, streamLine text, ""⟩
  | .misused spec m => ⟨misuseStatus, "", streamLine (Help.misuse spec m)⟩

end SwayControl
