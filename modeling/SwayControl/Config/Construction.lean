import SwayControl.Config.Settings

/-!
Constructing settings. The path of the configuration file reaches the layer that reads it through a slot,
which is filled for one construction and emptied behind it, whether that succeeds or not.
-/

namespace SwayControl

/-- Entries with each key once, also in the tables among them. -/
structure Entries.Distinct (entries : Entries) : Prop where
  keys : (entries.map Prod.fst).Nodup
  within : ∀ key inner, entries.lookup key = some (.table inner) → (inner.map Prod.fst).Nodup

/-- Work with the slot that holds the path of a configuration file. -/
abbrev Constructing := EStateM SettingsFault (Option Path)

/-- What settings are constructed from: what surrounds the run, the file that is named if one is, where
to look for one if not, and the flags. -/
structure SettingsCall where
  surroundings : Surroundings
  named : Option String
  start : Location
  flags : Entries
  distinct : flags.Distinct

namespace SettingsCall

/-- Reads the layers and merges them. The file is the one in the slot. -/
def assemble (c : SettingsCall) (path : Option Path) : Constructing Settings := do
  let file ← ofExcept (fileLayer c.surroundings (← get))
  let environment ← ofExcept (variableLayer c.surroundings)
  let flags := Entries.put c.flags "config_path" (path.elim .absent fun p => .text p.text)
  ofExcept (readSettings path (mergeLayers flags environment file))

def perform (c : SettingsCall) : Constructing Settings := do
  let path ← ofExcept ((configFile c.surroundings c.named c.start).mapError .homeless)
  set path
  try c.assemble path finally set (none : Option Path)

end SettingsCall

end SwayControl
