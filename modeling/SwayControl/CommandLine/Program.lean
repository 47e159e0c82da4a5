import SwayControl.CommandLine.Invocation
import SwayControl.Config.Settings
import SwayControl.Grammar.TopLevel
import SwayControl.Log.Record
import SwayControl.Service.Version

/-!
Runs of the program. A command line is read up to its command, the settings are made, and then the words
for the command are read and it is carried out; whatever ends a run early decides what is told.
-/

namespace SwayControl

/-- A fault that no message of the program reports. -/
inductive Escape where
  | settings (fault : SettingsFault)
  | service (fault : Uncontained)

def Escape.message : Escape → String
  | .settings fault => fault.message
  | .service fault => fault.message

/-- What a run leaves behind: its status and streams, the log, which goes in front of the errors, the
sockets, and a fault that escaped. -/
structure ProgramRun where
  emission : Emission
  journal : Journal
  sockets : List Socket
  escaped : Option Escape

namespace ProgramRun

def writes (emission : Emission) : ProgramRun := ⟨emission, .empty, [], none⟩

def escapes (fault : Escape) : ProgramRun := ⟨⟨1, "", ""⟩, .empty, [], some fault⟩

end ProgramRun

namespace Globals

/-- The options of the program as a layer of settings. A socket with an empty name sets nothing. -/
def layer (g : Globals) : Entries :=
  [("json_output", .flag g.json), ("quiet", .flag g.quiet), ("verbose", .flag g.verbose),
      ("log_json", .flag g.logJson)] ++
    ((g.socket.filter fun socket => !socket.isEmpty).map fun socket =>
      ("socket", Datum.text socket)).toList

def settings (g : Globals) (s : Surroundings) : Except SettingsFault Settings :=
  Settings.make s g.config s.working g.layer

end Globals

namespace Settings

def outputMode (settings : Settings) : OutputMode :=
  ⟨settings.json, settings.quiet, settings.verbose⟩

def plan (settings : Settings) (s : Surroundings) : ClientPlan :=
  ⟨settings.socketPath s, some (.real settings.ipc.timeout), false, s.nesting⟩

def logContext (settings : Settings) (s : Surroundings) : LogContext :=
  ⟨settings.socketPath s, settings.configPath.map Path.text⟩

def journal (settings : Settings) (s : Surroundings) (events : List Event) : Journal :=
  ⟨settings.logJson,
    if settings.verbose then events.map fun event => ⟨event, settings.logContext s⟩ else []⟩

end Settings

def workspaceCommand (name : String) (number : Option Int) (byNumber : Bool) : TopLevel :=
  let target := Argument.workspace ⟨name, number⟩
  .workspace (if byNumber then .workspaceNumber target else target)

/-- Carries out an action with a client and the peers it will meet. -/
def Action.serve (action : Action) (normalize : Bool) (plan : ClientPlan) (peers : List Peer) :
    Served :=
  match action with
  | .render commands => ⟨.ok (Dispatch.render (Order.ofTexts commands normalize)), [], []⟩
  | .run commands dryRun => Dispatch.run (Order.ofTexts commands normalize) dryRun plan peers
  | .version => Version.run plan peers
  | .workspace name number byNumber dryRun =>
    let command := (workspaceCommand name number byNumber).render
    Dispatch.run (Order.ofTexts [command] normalize) dryRun plan peers

/-- Carries out an action and reports its result. -/
def Action.perform (action : Action) (settings : Settings) (s : Surroundings) (peers : List Peer) :
    ProgramRun :=
  let served := action.serve settings.normalize (settings.plan s) peers
  let journal := settings.journal s served.events
  match served.result with
  | .ok result => ⟨settings.outputMode.emit result, journal, served.sockets, none⟩
  | .error fault => ⟨⟨1, "", ""⟩, journal, served.sockets, some (.service fault)⟩

/-- What is left behind where settings cannot be made. A configuration file that is none is told of; any
other fault escapes. -/
def SettingsFault.run : SettingsFault → ProgramRun
  | .badFile path fault =>
    .writes ⟨1, "", streamLine ("Error: " ++ SettingsFault.message (.badFile path fault))⟩
  | fault => .escapes (.settings fault)

def Invocation.perform (invocation : Invocation) (settings : Settings) (s : Surroundings)
    (peers : List Peer) : ProgramRun :=
  match invocation.command with
  | none => .writes (Halt.shows (Help.text programSpec)).emission
  | some (command, words) =>
    match Action.read command words with
    | .error halt => .writes halt.emission
    | .ok action => action.perform settings s peers

/-- Runs the program on the words of a command line. -/
def runProgram (s : Surroundings) (peers : List Peer) (words : List String) : ProgramRun :=
  match Invocation.read words with
  | .error halt => .writes halt.emission
  | .ok invocation =>
    match invocation.globals.settings s with
    | .error fault => fault.run
    | .ok settings => invocation.perform settings s peers

end SwayControl
