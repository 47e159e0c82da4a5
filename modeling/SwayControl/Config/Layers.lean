import SwayControl.Config.Discovery
import SwayControl.Data.Lenient
import SwayControl.Json.Reader
import SwayControl.Toml.Document

/-!
The layers of the settings: flags of the command line, variables of the environment, and the
configuration file. Each layer is a table, and of two layers the higher one wins key by key, also
inside sections. A variable sets a leaf by its name, or a whole section as JSON.
-/

namespace SwayControl

/-- Why settings cannot be made: the configuration file cannot be looked for or read, a variable cannot be
read, or a number of settings are wrong. -/
inductive SettingsFault where
  | homeless (fault : HomeFault)
  | badFile (path : Path) (fault : Toml.Fault)
  | tooManyDigits (count : Nat)
  | badVariable (field : String)
  | tooDeep (inner : Json.Container)
  | invalid (count : Nat)

/-- The settings that stand by themselves. -/
def plainFields : List String :=
  ["config_path", "json_output", "quiet", "verbose", "log_json", "socket"]

/-- The sections of the settings, and the leaves of each. -/
def sections : List (String × List String) :=
  [("ipc", ["socket_path", "timeout"]), ("render", ["normalize_whitespace"])]

mutual

/-- A table with the entries of a higher one set in it, tables within tables likewise. -/
def Datum.overlay (lower : Datum) : Datum → Datum
  | .table higher =>
    match lower with
    | .table entries => .table (overlayEntries entries higher)
    | _ => .table higher
  | higher => higher

def overlayEntries (entries : List (String × Datum)) : List (String × Datum) → Entries
  | [] => entries
  | (key, value) :: rest =>
    let merged := match entries.lookup key with
      | some lower => Datum.overlay lower value
      | none => value
    overlayEntries (Entries.put entries key merged) rest

end

/-- The small letter for a capital one. Beside the ASCII letters only the sign of the kelvin is one for an
ASCII letter; any other character stays as it is, since the names that are asked for are ASCII. -/
def smallLetter (c : Char) : Char :=
  if c == '\u212A' then 'k' else c.toLower

/-- Variables by name in small letters, of two with one name the last. -/
def lowerNames (environment : List (String × String)) : List (String × String) :=
  environment.foldl (fun settled given =>
    let name := given.1.map smallLetter
    if settled.any (·.1 == name) then
      settled.map fun other => if other.1 == name then (name, given.2) else other
    else settled ++ [(name, given.2)]) []

/-- What the names of variables for settings begin with. -/
def variablePrefix : String := "swaycmd_"

def variableSeparator : String := "__"

/-- The keys between the separators of a name, after the last characters of the first of them. -/
def keysBetween (done : List Char) : List Char → List String
  | '_' :: '_' :: rest => String.ofList done.reverse :: keysBetween [] rest
  | c :: rest => keysBetween (c :: done) rest
  | [] => [String.ofList done.reverse]

/-- Sets a leaf by a path of keys. A path that leads through a leaf sets nothing. -/
def setPath (value : Datum) : List String → Entries → Entries
  | [], entries => entries
  | [key], entries => Entries.put entries key value
  | key :: path, entries =>
    match entries.lookup key with
    | none => Entries.put entries key (.table (setPath value path []))
    | some (.table inner) => Entries.put entries key (.table (setPath value path inner))
    | some _ => entries

/-- The entries that variables set below a section. -/
def variablesBelow (environment : List (String × String)) (field : String) : Entries :=
  let start := variablePrefix ++ field ++ variableSeparator
  environment.foldl (fun entries given =>
    if given.1.startsWith start then
      setPath (.text given.2) (keysBetween [] (given.1.toList.drop start.length)) entries
    else entries) []

def withLeafNames (leaves : List String) (entries : Entries) : Entries :=
  .ofSettings <| entries.map fun (key, value) =>
    match leaves.find? fun leaf => leaf == key.map smallLetter with
    | some leaf => (leaf, value)
    | none => (key, value)

/-- The value that variables give a section, if they give it one. A whole section is JSON. -/
def sectionFromVariables (nesting : Nat) (environment : List (String × String)) (field : String)
    (leaves : List String) : Except SettingsFault (Option Datum) :=
  let below := variablesBelow environment field
  match environment.lookup (variablePrefix ++ field) with
  | none => .ok (if below.isEmpty then none else some (.table (withLeafNames leaves below)))
  | some whole =>
    match Json.readPoints nesting (whole.toList.map Char.toNat) with
    | .error (.malformed _) => .error (.badVariable field)
    | .error (.tooDeep inner) => .error (.tooDeep inner)
    -- A section that is null as a whole sets nothing, whatever is set below it.
    | .ok .absent => .ok none
    | .ok (.table entries) =>
      .ok (some (.table (withLeafNames leaves (overlayEntries entries below))))
    | .ok value => .ok (some value)

def variableLayer (s : Surroundings) : Except SettingsFault Entries := do
  let environment := lowerNames s.environment
  let plain := plainFields.filterMap fun field =>
    (environment.lookup (variablePrefix ++ field)).map fun value => (field, Datum.text value)
  let nested ← sections.mapM fun (field, leaves) => do
    return (← sectionFromVariables s.nesting environment field leaves).map fun value => (field, value)
  return plain ++ nested.filterMap id

/-- A text whose line breaks are line feeds. -/
def unifyBreaks : List Char → List Char
  | '\r' :: '\n' :: rest => '\n' :: unifyBreaks rest
  | '\r' :: rest => '\n' :: unifyBreaks rest
  | c :: rest => c :: unifyBreaks rest
  | [] => []

/-- Why the configuration file at a path sets nothing. An integer that is too long is a fault of its
own. -/
def SettingsFault.ofFile (path : Path) (fault : Toml.Fault) : SettingsFault :=
  match fault.reason with
  | .tooManyDigits count => .tooManyDigits count
  | _ => .badFile path fault

/-- The layer of a configuration file, which is empty without one. -/
def fileLayer (s : Surroundings) (path : Option Path) : Except SettingsFault Entries :=
  match path with
  | none => .ok []
  | some path =>
    match s.tree.read? s.working path with
    | none => .ok []
    | some text => (Toml.read (unifyBreaks text.toList)).mapError (.ofFile path)

end SwayControl
