import SwayControl.CommandLine.Program
import SwayControl.Proofs.Config.Leaves

/-!
Flags of the command line among the settings. A flag that is not given is in the highest layer as
well, as false, so that neither the environment nor the configuration file is asked for it.
-/

namespace SwayControl

/-- The flags that settings share with the command line. -/
inductive FlagName where
  | json | quiet | verbose | logJson
deriving DecidableEq, Repr

namespace FlagName

/-- What settings call a flag. -/
def key : FlagName → String
  | .json => "json_output"
  | .quiet => "quiet"
  | .verbose => "verbose"
  | .logJson => "log_json"

/-- The switch that gives a flag on the command line. -/
def option : FlagName → OptionSwitch
  | .json => .json
  | .quiet => .quiet
  | .verbose => .verbose
  | .logJson => .logJson

theorem key_plain (f : FlagName) : f.key ∈ plainFields := by cases f <;> decide

theorem key_not_section (f : FlagName) : f.key ∉ sections.map Prod.fst := by cases f <;> decide

theorem key_ne_configPath (f : FlagName) : f.key ≠ "config_path" := by cases f <;> decide

end FlagName

/-- A flag as the command line has it. -/
def Globals.flag (g : Globals) : FlagName → Bool
  | .json => g.json
  | .quiet => g.quiet
  | .verbose => g.verbose
  | .logJson => g.logJson

/-- A flag as the settings have it. -/
def Settings.flag (settings : Settings) : FlagName → Bool
  | .json => settings.json
  | .quiet => settings.quiet
  | .verbose => settings.verbose
  | .logJson => settings.logJson

/-- A flag of the settings is what merged layers have for its key, or false. -/
theorem readSettings_flag {path : Option Path} {entries : Entries} {settings : Settings}
    (h : readSettings path entries = .ok settings) (f : FlagName) :
    (entries.flag? f.key).getD (.ok false) = .ok (settings.flag f) := by
  obtain ⟨-, hleaf⟩ := readSettings_leaf h
  cases f with
  | json => exact hleaf .json
  | quiet => exact hleaf .quiet
  | verbose => exact hleaf .verbose
  | logJson => exact hleaf .logJson

/-- The value of a flag below the command line: that of the environment, or else of the file, or
else false. -/
def flagBelow (environment : List (String × String)) (file : Entries) (f : FlagName) :
    Lenient Bool :=
  (((variableValue? environment f.key).map Datum.readFlag).or (file.flag? f.key)).getD (.ok false)

/-- A flag of the settings is that of the highest layer if it is in there, and else the one below. -/
theorem make_flag {s : Surroundings} {named : Option String} {start : Location} {flags : Entries}
    {settings : Settings} (h : Settings.make s named start flags = .ok settings)
    (hflags : flags.keys.Nodup) :
    ∃ path file, configFile s named start = .ok path ∧ fileLayer s path = .ok file ∧
      ∀ f : FlagName, (flags.flag? f.key).getD (flagBelow s.environment file f) =
        .ok (settings.flag f) := by
  unfold Settings.make at h
  obtain ⟨path, hpath, h⟩ := bind_eq_ok.mp h
  obtain ⟨file, hfile, h⟩ := bind_eq_ok.mp h
  obtain ⟨environment, hvariables, h⟩ := bind_eq_ok.mp h
  refine ⟨path, file, mapError_eq_ok.mp hpath, hfile, fun f => ?_⟩
  rw [← readSettings_flag h f, flag?_mergeLayers (Entries.nodup_put hflags)
    (nodup_variableLayer hvariables), Entries.flag?_put_other f.key_ne_configPath,
    flag?_variableLayer hvariables f.key_plain f.key_not_section]
  cases flags.flag? f.key <;> rfl

namespace Globals

theorem nodup_layer (g : Globals) : (Entries.keys g.layer).Nodup := by
  unfold layer
  cases g.socket.filter fun socket => !socket.isEmpty <;> simp [Entries.keys]

/-- The command line has a value for every flag, given or not. -/
theorem flag?_layer (g : Globals) (f : FlagName) :
    Entries.flag? g.layer f.key = some (.ok (g.flag f)) := by
  cases f <;> rfl

theorem flag_ofGiven (given : List Given) (f : FlagName) :
    (ofGiven given).flag f = Given.has given f.option := by
  cases f <;> rfl

end Globals

theorem Invocation.read_eq_ok {words : List String} {invocation : Invocation}
    (h : Invocation.read words = .ok invocation) :
    ∃ arguments, programSpec.read false words = .ok arguments ∧
      invocation.globals = Globals.ofGiven arguments.given := by
  unfold Invocation.read at h
  obtain ⟨arguments, hread, h⟩ := bind_eq_ok.mp h
  refine ⟨arguments, hread, ?_⟩
  dsimp only at h
  split at h
  · cases h
    rfl
  · split at h
    · cases h
      rfl
    · obtain ⟨_, -, hthrow⟩ := bind_eq_ok.mp h
      cases hthrow

/-- The flags of a run are those that are given on its command line, whatever stands below. So a
flag follows the order of the layers just where it is given, or is false in those below. -/
theorem flags_as_given {s : Surroundings} {words : List String} {invocation : Invocation}
    {settings : Settings} (hread : Invocation.read words = .ok invocation)
    (hsettings : invocation.globals.settings s = .ok settings) :
    (∀ peers, runProgram s peers words = invocation.perform settings s peers) ∧
    ∃ arguments path file, programSpec.read false words = .ok arguments ∧
      configFile s invocation.globals.config s.working = .ok path ∧ fileLayer s path = .ok file ∧
      ∀ f : FlagName,
        (settings.flag f = true ↔ Given.has arguments.given f.option = true) ∧
        ((if Given.has arguments.given f.option then .ok true
            else flagBelow s.environment file f) = .ok (settings.flag f) ↔
          Given.has arguments.given f.option = true ∨
            flagBelow s.environment file f = .ok false) := by
  constructor
  · intro peers
    simp only [runProgram, hread, hsettings]
  · obtain ⟨arguments, harguments, hglobals⟩ := Invocation.read_eq_ok hread
    obtain ⟨path, file, hpath, hfile, hflags⟩ := make_flag hsettings invocation.globals.nodup_layer
    refine ⟨arguments, path, file, harguments, hpath, hfile, fun f => ?_⟩
    have hflag : settings.flag f = Given.has arguments.given f.option := by
      have hlayer := hflags f
      rw [Globals.flag?_layer, hglobals, Globals.flag_ofGiven] at hlayer
      exact (Except.ok.inj hlayer).symm
    rw [hflag]
    cases Given.has arguments.given f.option <;> simp

/-- The words of a dry run. -/
def dryRunWords : List String := ["run", "--dry-run", "kill"]

/-- Surroundings in which a variable asks for little output. -/
def quietSurroundings : Surroundings :=
  ⟨[("SWAYCMD_QUIET", "true")], ⟨[], []⟩, [], some "/home/user", Json.usualNesting⟩

/-- What words ask for that begin with the name of the command to run. -/
def dryRunInvocation : Invocation := ⟨Globals.ofGiven [], some (.run, ["--dry-run", "kill"])⟩

theorem dryRunWords_read : Invocation.read dryRunWords = .ok dryRunInvocation := by
  with_unfolding_all rfl

theorem quietSurroundings_names :
    lowerNames quietSurroundings.environment = [("swaycmd_quiet", "true")] := by
  decide +kernel

theorem quietSurroundings_variables :
    variableLayer quietSurroundings = .ok [("quiet", .text "true")] := by
  have hipc : variablesBelow [("swaycmd_quiet", "true")] "ipc" = [] :=
    variablesBelow_eq_nil (by decide +kernel)
  have hrender : variablesBelow [("swaycmd_quiet", "true")] "render" = [] :=
    variablesBelow_eq_nil (by decide +kernel)
  unfold variableLayer
  rw [quietSurroundings_names]
  simp only [sections, List.mapM_cons, sectionFromVariables, hipc, hrender]
  rfl

/-- Settings of which none is set by any layer. -/
def unsetSettings : Settings :=
  ⟨none, false, false, false, false, none, ⟨none, defaultTimeout⟩, false⟩

theorem quietSurroundings_path (named : Option String) (start : Location) :
    configFile quietSurroundings named start = .ok none := by
  refine configFile_of_no_files rfl (fun hhomeless => ?_) named start
  exact absurd (hhomeless.tilde "/home/user" (.inr ⟨rfl, rfl⟩)) (by decide)

theorem quietSurroundings_settings :
    dryRunInvocation.globals.settings quietSurroundings = .ok unsetSettings := by
  unfold Globals.settings
  exact make_eq_readSettings (quietSurroundings_path _ _) rfl quietSurroundings_variables _

theorem quietSurroundings_below : flagBelow quietSurroundings.environment [] .quiet = .ok true := by
  unfold flagBelow variableValue?
  rw [quietSurroundings_names]
  with_unfolding_all rfl

theorem dryRunWords_flags :
    Invocation.read dryRunWords = .ok dryRunInvocation ∧
      dryRunInvocation.globals.settings quietSurroundings = .ok unsetSettings ∧
      ∃ arguments path file, programSpec.read false dryRunWords = .ok arguments ∧
        configFile quietSurroundings none [] = .ok path ∧ fileLayer quietSurroundings path = .ok file ∧
        ∀ f : FlagName,
          (unsetSettings.flag f = true ↔ Given.has arguments.given f.option = true) ∧
          ((if Given.has arguments.given f.option then .ok true
              else flagBelow quietSurroundings.environment file f) = .ok (unsetSettings.flag f) ↔
            Given.has arguments.given f.option = true ∨
              flagBelow quietSurroundings.environment file f = .ok false) := by
  obtain ⟨-, hflags⟩ := flags_as_given dryRunWords_read quietSurroundings_settings
  exact ⟨dryRunWords_read, quietSurroundings_settings, hflags⟩

/-- A flag that is not given is false, although its variable says that it is true. -/
theorem quiet_variable_ignored :
    ∃ arguments, programSpec.read false dryRunWords = .ok arguments ∧
      Given.has arguments.given .quiet = false ∧
      Invocation.read dryRunWords = .ok dryRunInvocation ∧
      dryRunInvocation.globals.settings quietSurroundings = .ok unsetSettings ∧
      (∃ path file, configFile quietSurroundings dryRunInvocation.globals.config
          quietSurroundings.working = .ok path ∧ fileLayer quietSurroundings path = .ok file ∧
        flagBelow quietSurroundings.environment file .quiet = .ok true) ∧
      unsetSettings.quiet = false := by
  have harguments : programSpec.read false dryRunWords = .ok ⟨[], dryRunWords⟩ := by decide +kernel
  exact ⟨_, harguments, rfl, dryRunWords_read, quietSurroundings_settings,
    ⟨none, [], quietSurroundings_path _ _, rfl, quietSurroundings_below⟩, rfl⟩

end SwayControl
