import SwayControl.CommandLine.Example
import SwayControl.CommandLine.Option

/-!
The program and its commands, as they are described to those who call them.
-/

namespace SwayControl

/-- The words that a command takes besides its options: none, one, one or more, or the name of another
command and words for that. -/
inductive Operands where
  | nothing
  | single (label : String)
  | several (label : String)
  | command
deriving DecidableEq, Repr

/-- A command: how it is called, what it does, and what it takes. -/
structure CommandSpec where
  path : String
  summary : String
  options : List OptionSpec
  operands : Operands
  examples : List Example
deriving DecidableEq, Repr

inductive CommandName where
  | render | run | version | workspace
deriving DecidableEq, Repr

def commandsLabel : String := "COMMANDS"

def nameLabel : String := "NAME"

def examplesOption : OptionSpec := ⟨.switch .examples, none, "--examples", "Show usage examples."⟩

def helpOption : OptionSpec := ⟨.switch .help, none, "--help", "Show this message and exit."⟩

def dryRunOption : OptionSpec :=
  ⟨.switch .dryRun, none, "--dry-run", "Render the command list without sending it."⟩

def numberOption : OptionSpec :=
  ⟨.carrier .number "INTEGER", none, "--number", "Workspace number prefix (N:NAME)."⟩

def programSpec : CommandSpec where
  path := programName
  summary := "swaycmd: build and send sway commands."
  options :=
    [⟨.switch .version, none, "--version", "Show the version and exit."⟩,
      ⟨.switch .json, none, "--json", "Structured JSON output."⟩,
      ⟨.switch .quiet, some 'q', "--quiet", "Minimal output."⟩,
      ⟨.switch .verbose, some 'v', "--verbose", "Detailed output with debug info."⟩,
      ⟨.switch .logJson, none, "--log-json", "Structured JSON log output to stderr."⟩,
      ⟨.carrier .config "TEXT", some 'c', "--config", "Override config file path."⟩,
      ⟨.carrier .socket "TEXT", none, "--socket", "Sway IPC socket path (default: $SWAYSOCK)."⟩,
      examplesOption, helpOption]
  operands := .command
  examples :=
    [["render", "workspace 5", "border none"], ["run", "exec foot"],
      ["--json", "workspace", "web", "--dry-run"], ["version"]]

namespace CommandName

/-- The commands in the order of their names. -/
def all : List CommandName := [.render, .run, .version, .workspace]

def text : CommandName → String
  | .render => "render"
  | .run => "run"
  | .version => "version"
  | .workspace => "workspace"

def ofText? (name : String) : Option CommandName := all.find? fun command => command.text == name

def summary : CommandName → String
  | .render => "Join COMMANDS into one ';'-separated command list and print it."
  | .run => "Send COMMANDS to sway as one IPC message."
  | .version => "Ask the running sway for its version."
  | .workspace => "Switch to workspace NAME, creating it if needed."

def operands : CommandName → Operands
  | .render | .run => .several commandsLabel
  | .version => .nothing
  | .workspace => .single nameLabel

/-- The options that a command has besides those that all have. -/
def ownOptions : CommandName → List OptionSpec
  | .render | .version => []
  | .run => [dryRunOption]
  | .workspace =>
    [numberOption,
      ⟨.switch .byNumber, none, "--by-number", "Match the workspace by number only."⟩, dryRunOption]

def examples : CommandName → List Example
  | .render =>
    [["render", "workspace 5", "border none"], ["render", "[app_id=\"mpv\"]floating enable"],
      ["--json", "render", "reload"]]
  | .run =>
    [["run", "workspace 5", "exec foot"], ["run", "--dry-run", "[class=\"Firefox\"]kill"],
      ["--socket", "/run/user/1000/sway-ipc.sock", "run", "reload"]]
  | .version => [["version"], ["-v", "version"], ["--json", "version"]]
  | .workspace =>
    [["workspace", "web"], ["workspace", "mail", "--number", "3"],
      ["workspace", "mail", "--number", "3", "--by-number"], ["workspace", "scratch", "--dry-run"]]

def spec (command : CommandName) : CommandSpec :=
  ⟨programName ++ " " ++ command.text, command.summary,
    command.ownOptions ++ [examplesOption, helpOption], command.operands, command.examples⟩

end CommandName

end SwayControl
