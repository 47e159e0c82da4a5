import SwayControl.Config.Layers
import SwayControl.Ipc.Outcome

/-!
Settings of a run. The layers are merged and then read leniently; what no layer sets has a default.
-/

namespace SwayControl

structure IpcSettings where
  socketPath : Option String
  timeout : Binary64
deriving DecidableEq, Repr

structure Settings where
  configPath : Option Path
  json : Bool
  quiet : Bool
  verbose : Bool
  logJson : Bool
  socket : Option String
  ipc : IpcSettings
  normalize : Bool
deriving DecidableEq, Repr

/-- How long a client waits if nothing else is set, in seconds. -/
def defaultTimeout : Binary64 := .ofRatio false 5 1

/-- A setting, which a fault makes one of those to be counted. -/
abbrev Counted (α : Type) := Except Nat α

/-- The value of a key, read if it is set. -/
def readSetting {α : Type} (entries : Entries) (key : String) (fallback : α)
    (read : Datum → Lenient α) : Counted α :=
  match entries.lookup key with
  | none => .ok fallback
  | some value => (read value).mapError fun _ => 1

def faultNumber {α : Type} : Counted α → Nat
  | .ok _ => 0
  | .error count => count

/-- The table of a section, which is empty where the section is not set. -/
def sectionEntries (entries : Entries) (key : String) : Counted Entries :=
  match entries.lookup key with
  | none => .ok []
  | some (.table inner) => .ok inner
  | some _ => .error 1

def readIpc (inner : Entries) : Counted IpcSettings :=
  let socketPath := readSetting inner "socket_path" none Datum.readOptionalText
  let timeout := readSetting inner "timeout" defaultTimeout Datum.readReal
  match socketPath, timeout with
  | .ok socketPath, .ok timeout => .ok ⟨socketPath, timeout⟩
  | socketPath, timeout => .error (faultNumber socketPath + faultNumber timeout)

/-- The number of keys that name no setting. -/
def unknownKeys (entries : Entries) : Nat :=
  (entries.filter fun entry =>
    !plainFields.contains entry.1 && !(sections.map Prod.fst).contains entry.1).length

def readSettings (configPath : Option Path) (entries : Entries) : Except SettingsFault Settings :=
  let flag (key : String) : Counted Bool := readSetting entries key false Datum.readFlag
  let json := flag "json_output"
  let quiet := flag "quiet"
  let verbose := flag "verbose"
  let logJson := flag "log_json"
  let socket := readSetting entries "socket" none Datum.readOptionalText
  let ipc := (sectionEntries entries "ipc").bind readIpc
  let normalize := (sectionEntries entries "render").bind fun inner =>
    readSetting inner "normalize_whitespace" false Datum.readFlag
  let unknown := unknownKeys entries
  -- Every setting is read before a fault is reported, as the report counts them.
  match json, quiet, verbose, logJson, socket, ipc, normalize, unknown with
  | .ok json, .ok quiet, .ok verbose, .ok logJson, .ok socket, .ok ipc, .ok normalize, 0 =>
    .ok ⟨configPath, json, quiet, verbose, logJson, socket, ipc, normalize⟩
  | json, quiet, verbose, logJson, socket, ipc, normalize, unknown =>
    .error (.invalid (faultNumber json + faultNumber quiet + faultNumber verbose +
      faultNumber logJson + faultNumber socket + faultNumber ipc + faultNumber normalize + unknown))

/-- The layers merged: the file below the environment, and both below the flags. -/
def mergeLayers (flags environment file : Entries) : Entries :=
  overlayEntries file (overlayEntries environment flags)

/-- The configuration file of a run: one that is named, if it is there, or the one that is found. -/
def configFile (s : Surroundings) (named : Option String) (start : Location) :
    Except HomeFault (Option Path) :=
  match named.filter fun name => !name.isEmpty with
  | some name =>
    let path := Path.ofText name
    return if s.tree.isFile s.working path then some path else none
  | none => s.findConfig start

/-- The settings of a run with given flags. -/
def Settings.make (s : Surroundings) (named : Option String) (start : Location) (flags : Entries) :
    Except SettingsFault Settings := do
  let path ← (configFile s named start).mapError .homeless
  let file ← fileLayer s path
  let environment ← variableLayer s
  -- Set among the flags, the path is above any layer that names another.
  let flags := Entries.put flags "config_path" (path.elim .absent fun p => .text p.text)
  readSettings path (mergeLayers flags environment file)

def SettingsFault.message : SettingsFault → String
  | .homeless fault => fault.message
  | .badFile path fault => "Invalid TOML in " ++ path.text ++ ": " ++ fault.message
  | .tooManyDigits count => tooManyDigitsText count
  | .badVariable field =>
    "error parsing value for field \"" ++ field ++ "\" from source \"EnvSettingsSource\""
  | .tooDeep inner => inner.tooDeepText
  | .invalid count => faultCount count "SwaycmdSettings"

def socketVariable : String := "SWAYSOCK"

/-- The socket to connect to: the first that is set and not empty of the flag or setting, the section
of the connection, and the variable of the window manager. -/
def Settings.socketPath (settings : Settings) (s : Surroundings) : Option String :=
  let nonempty (path : Option String) : Option String := path.filter fun p => !p.isEmpty
  (nonempty settings.socket).or ((nonempty settings.ipc.socketPath).or (s.lookup? socketVariable))

end SwayControl
