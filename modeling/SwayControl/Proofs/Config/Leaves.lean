import SwayControl.Config.Construction
import SwayControl.Proofs.Config.Sections

/-!
Leaves of the settings. Each leaf, also one inside a section, comes from the highest layer that sets it, and
what settings are constructed does not depend on constructions before.
-/

namespace SwayControl

/-- The settings that layers set. -/
inductive Leaf where
  | json | quiet | verbose | logJson | socket | socketPath | timeout | normalize
deriving DecidableEq, Repr

namespace Leaf

/-- The section that a leaf is in. -/
def section? : Leaf → Option String
  | .socketPath | .timeout => some "ipc"
  | .normalize => some "render"
  | .json | .quiet | .verbose | .logJson | .socket => none

/-- What layers call a leaf. -/
def key : Leaf → String
  | .json => "json_output"
  | .quiet => "quiet"
  | .verbose => "verbose"
  | .logJson => "log_json"
  | .socket => "socket"
  | .socketPath => "socket_path"
  | .timeout => "timeout"
  | .normalize => "normalize_whitespace"

/-- The values of a leaf. -/
abbrev Value : Leaf → Type
  | .socket | .socketPath => Option String
  | .timeout => Binary64
  | .json | .quiet | .verbose | .logJson | .normalize => Bool

/-- How a leaf is read. -/
def read : (x : Leaf) → Datum → Lenient x.Value
  | .socket | .socketPath => Datum.readOptionalText
  | .timeout => Datum.readReal
  | .json | .quiet | .verbose | .logJson | .normalize => Datum.readFlag

/-- The value of a leaf that no layer sets. -/
def fallback : (x : Leaf) → x.Value
  | .socket | .socketPath => none
  | .timeout => defaultTimeout
  | .json | .quiet | .verbose | .logJson | .normalize => false

/-- What the environment sets a leaf to. -/
def ofVariables? (s : Surroundings) (x : Leaf) : Option Datum :=
  match x.section? with
  | none => variableValue? s.environment x.key
  | some field => sectionLeaf? s.nesting (lowerNames s.environment) field x.key

end Leaf

/-- What entries set a leaf to. -/
def Entries.leaf? (entries : Entries) (x : Leaf) : Option Datum :=
  match x.section? with
  | none => entries.lookup x.key
  | some field => (entries.lookup field).bind (Datum.field? x.key)

/-- A leaf as the settings have it. -/
def Settings.leaf (settings : Settings) : (x : Leaf) → x.Value
  | .json => settings.json
  | .quiet => settings.quiet
  | .verbose => settings.verbose
  | .logJson => settings.logJson
  | .socket => settings.socket
  | .socketPath => settings.ipc.socketPath
  | .timeout => settings.ipc.timeout
  | .normalize => settings.normalize

/-- A leaf by the order of the layers: the flags, the environment, the file, and else its default. -/
def Leaf.layered (x : Leaf) (flags : Entries) (s : Surroundings) (file : Entries) : Lenient x.Value :=
  (((flags.leaf? x).or ((x.ofVariables? s).or (file.leaf? x))).map x.read).getD (.ok x.fallback)

namespace Leaf

theorem key_mem_plainFields {x : Leaf} (h : x.section? = none) :
    x.key ∈ plainFields ∧ x.key ∉ sections.map Prod.fst := by
  cases x <;> cases h <;> decide

theorem isLeaf {x : Leaf} {field : String} (h : x.section? = some field) :
    ∃ leaves, (field, leaves) ∈ sections ∧ field ∉ plainFields ∧ IsLeaf leaves x.key := by
  cases x <;> cases h
  · exact ⟨_, .head _, by decide, by decide, isSmall_iff.mpr rfl, rfl⟩
  · exact ⟨_, .head _, by decide, by decide, isSmall_iff.mpr rfl, rfl⟩
  · exact ⟨_, .tail _ (.head _), by decide, by decide, isSmall_iff.mpr rfl, rfl⟩

theorem read_table (x : Leaf) (entries : Entries) (value : x.Value) : x.read (.table entries) ≠ .ok value := by
  cases x <;> exact nofun

theorem read_overlay (x : Leaf) (lower value : Datum) :
    x.read (Datum.overlay lower value) = x.read value := by
  cases value with
  | table higher =>
      obtain ⟨inner, hinner⟩ := overlay_table lower higher
      rw [hinner]
      cases x <;> rfl
  | _ => rfl

end Leaf

section Reading

variable {entries : Entries} {key : String} {path : Option Path} {settings : Settings}

/-- Entries in which nothing but tables is set for the sections. -/
def Entries.HasSections (entries : Entries) : Prop :=
  ∀ (x : Leaf) (field : String), x.section? = some field → Passable (entries.lookup field)

theorem readSetting_eq_ok {α : Type} {fallback value : α} {read : Datum → Lenient α}
    (h : readSetting entries key fallback read = .ok value) :
    ((entries.lookup key).map read).getD (.ok fallback) = .ok value := by
  unfold readSetting at h
  revert h
  cases entries.lookup key with
  | none => exact fun h => congrArg Except.ok (Except.ok.inj h)
  | some found => exact mapError_eq_ok.mp

/-- A section that is read is a table or not set, and its leaves are those of the table. -/
theorem sectionEntries_eq_ok {inner : Entries} (h : sectionEntries entries key = .ok inner) :
    Passable (entries.lookup key) ∧
      ∀ leaf, inner.lookup leaf = (entries.lookup key).bind (Datum.field? leaf) := by
  unfold sectionEntries at h
  split at h
  · rename_i hnone
    cases h
    rw [hnone]
    exact ⟨nofun, fun _ => rfl⟩
  · rename_i hinner
    cases h
    rw [hinner]
    exact ⟨fun value hvalue => ⟨inner, (Option.some.inj hvalue).symm⟩, fun _ => rfl⟩
  · cases h

theorem readSetting_section_eq_ok {α : Type} {fallback value : α} {read : Datum → Lenient α}
    {inner : Entries} {leaf : String} (hinner : sectionEntries entries key = .ok inner)
    (h : readSetting inner leaf fallback read = .ok value) :
    (((entries.lookup key).bind (Datum.field? leaf)).map read).getD (.ok fallback) = .ok value := by
  rw [← (sectionEntries_eq_ok hinner).2]
  exact readSetting_eq_ok h

theorem readIpc_eq_ok {inner : Entries} {ipc : IpcSettings} (h : readIpc inner = .ok ipc) :
    readSetting inner "socket_path" none Datum.readOptionalText = .ok ipc.socketPath ∧
      readSetting inner "timeout" defaultTimeout Datum.readReal = .ok ipc.timeout := by
  unfold readIpc at h
  dsimp only at h
  split at h
  · cases h
    exact ⟨‹_›, ‹_›⟩
  · cases h

/-- Settings that are read have every leaf as it is set, and are read from tables as sections. -/
theorem readSettings_leaf (h : readSettings path entries = .ok settings) :
    entries.HasSections ∧
      ∀ x : Leaf, ((entries.leaf? x).map x.read).getD (.ok x.fallback) = .ok (settings.leaf x) := by
  unfold readSettings at h
  dsimp only at h
  split at h
  · rename_i hjson hquiet hverbose hlogJson hsocket hipc hnormalize _
    cases h
    obtain ⟨inIpc, hinIpc, hipc⟩ := bind_eq_ok.mp hipc
    obtain ⟨inRender, hinRender, hnormalize⟩ := bind_eq_ok.mp hnormalize
    obtain ⟨hsocketPath, htimeout⟩ := readIpc_eq_ok hipc
    constructor
    · intro x field hfield
      cases x <;> cases hfield
      · exact (sectionEntries_eq_ok hinIpc).1
      · exact (sectionEntries_eq_ok hinIpc).1
      · exact (sectionEntries_eq_ok hinRender).1
    · intro x
      cases x with
      | json => exact readSetting_eq_ok hjson
      | quiet => exact readSetting_eq_ok hquiet
      | verbose => exact readSetting_eq_ok hverbose
      | logJson => exact readSetting_eq_ok hlogJson
      | socket => exact readSetting_eq_ok hsocket
      | socketPath => exact readSetting_section_eq_ok hinIpc hsocketPath
      | timeout => exact readSetting_section_eq_ok hinIpc htimeout
      | normalize => exact readSetting_section_eq_ok hinRender hnormalize
  · cases h

end Reading

section Merging

variable {lower higher : Entries} {x : Leaf}

theorem eq_table_of_overlay {lower value : Datum} {inner : Entries}
    (h : Datum.overlay lower value = .table inner) : ∃ inner, value = .table inner := by
  cases value with
  | table higher => exact ⟨higher, rfl⟩
  | _ => cases h

theorem Entries.HasSections.of_overlayEntries (hhigher : higher.Distinct)
    (h : (overlayEntries lower higher).HasSections) : higher.HasSections := by
  -- What is no table replaces what is below it, so it would still be there in the merged section.
  intro x field hfield value hvalue
  have hmerged := h x field hfield
  rw [lookup_overlayEntries hhigher.keys, hvalue, Option.elim_some] at hmerged
  cases hlower : lower.lookup field with
  | none => exact hmerged value (by rw [hlower]; rfl)
  | some below =>
      obtain ⟨inner, hinner⟩ := hmerged (below.overlay value) (by rw [hlower]; rfl)
      exact eq_table_of_overlay hinner

/-- Of merged layers a leaf comes from the higher one where that sets it, and else from the lower. -/
theorem read_leaf?_overlayEntries (hhigher : higher.Distinct) (hsections : higher.HasSections) :
    ((overlayEntries lower higher).leaf? x).map x.read =
      ((higher.leaf? x).or (lower.leaf? x)).map x.read := by
  unfold Entries.leaf?
  cases hfield : x.section? with
  | none =>
      dsimp only
      rw [read_overlayEntries hhigher.keys x.read_overlay, Option.map_or]
  | some field =>
      dsimp only
      rw [lookup_overlayEntries hhigher.keys]
      cases hvalue : higher.lookup field with
      | none => rfl
      | some value =>
          obtain ⟨inner, rfl⟩ := hsections x field hfield value hvalue
          have hinner := hhigher.within field inner hvalue
          rw [Option.elim_some, Option.bind_some, Option.bind_some]
          cases lower.lookup field with
          | none => exact congrArg _ (Option.or_none).symm
          | some below =>
              cases below with
              | table entries =>
                  rw [Option.map_or]
                  exact read_overlayEntries hinner x.read_overlay
              | _ => exact congrArg _ (Option.or_none).symm

theorem distinct_overlayEntries (hlower : lower.Distinct) (hhigher : higher.Distinct) :
    (overlayEntries lower higher).Distinct := by
  refine ⟨nodup_overlayEntries hlower.keys, fun key inner hinner => ?_⟩
  rw [lookup_overlayEntries hhigher.keys] at hinner
  cases hvalue : higher.lookup key with
  | none =>
      rw [hvalue] at hinner
      exact hlower.within key inner hinner
  | some value =>
      rw [hvalue, Option.elim_some, Option.some_inj] at hinner
      cases hbelow : lower.lookup key with
      | none =>
          rw [hbelow, Option.elim_none] at hinner
          exact hhigher.within key inner (hvalue.trans (congrArg some hinner))
      | some below =>
          rw [hbelow, Option.elim_some] at hinner
          obtain ⟨above, rfl⟩ := eq_table_of_overlay hinner
          cases below with
          | table entries =>
              cases hinner
              exact nodup_overlayEntries (hlower.within key entries hbelow)
          | _ =>
              cases hinner
              exact hhigher.within key inner hvalue

theorem read_leaf?_mergeLayers {flags environment file : Entries} (hflags : flags.Distinct)
    (henvironment : environment.Distinct)
    (hsections : (mergeLayers flags environment file).HasSections) :
    ((mergeLayers flags environment file).leaf? x).map x.read =
      ((flags.leaf? x).or ((environment.leaf? x).or (file.leaf? x))).map x.read := by
  have habove : (overlayEntries environment flags).Distinct :=
    distinct_overlayEntries henvironment hflags
  have hupper : (overlayEntries environment flags).HasSections := .of_overlayEntries habove hsections
  have hflagSections : flags.HasSections := .of_overlayEntries hflags hupper
  rw [mergeLayers, read_leaf?_overlayEntries habove hupper, Option.map_or,
    read_leaf?_overlayEntries hflags hflagSections]
  simp only [Option.map_or, Option.or_assoc]

end Merging

section Calls

variable {s : Surroundings} {layer flags : Entries} {x : Leaf}

theorem leaf?_put_configPath (value : Datum) :
    (Entries.put flags "config_path" value).leaf? x = flags.leaf? x := by
  cases x <;> simp [Entries.leaf?, Leaf.section?, Leaf.key, Entries.lookup_put_other]

theorem Entries.Distinct.put (h : flags.Distinct) {key : String} {value : Datum}
    (hvalue : ∀ inner, value ≠ .table inner) : (Entries.put flags key value).Distinct := by
  refine ⟨nodup_put h.keys, fun other inner hinner => ?_⟩
  by_cases hkey : other = key
  · subst hkey
    rw [lookup_put_same] at hinner
    exact absurd (Option.some.inj hinner) (hvalue inner)
  · rw [lookup_put_other hkey] at hinner
    exact h.within other inner hinner

theorem distinct_variableLayer (h : variableLayer s = .ok layer) : layer.Distinct := by
  refine ⟨nodup_variableLayer h, fun key inner hinner => ?_⟩
  obtain ⟨nested, hnames, hnested, rfl⟩ := variableLayer_eq_ok h
  have hinNested : nested.lookup key = some (.table inner) := by
    rw [List.lookup_append, lookup_filterMap, Option.or_eq_some_iff] at hinner
    rcases hinner with hplain | ⟨-, hinner⟩
    · -- The plain values of the environment are texts.
      split at hplain
      · obtain ⟨text, -, htext⟩ := Option.map_eq_some_iff.mp hplain
        cases htext
      · cases hplain
    · exact hinner
  have hkey : key ∈ sections.map Prod.fst := by
    refine hnames.subset ?_
    by_contra hnot
    rw [Entries.lookup_eq_none hnot] at hinNested
    cases hinNested
  obtain ⟨⟨field, leaves⟩, hsection, rfl⟩ := List.mem_map.mp hkey
  exact nodup_sectionFromVariables (hinNested ▸ hnested field leaves hsection)

/-- The environment's layer sets a leaf as the variables say. -/
theorem foundAs_variableLayer (h : variableLayer s = .ok layer) (x : Leaf) :
    FoundAs (x.ofVariables? s) (layer.leaf? x) := by
  unfold Leaf.ofVariables? Entries.leaf?
  cases hfield : x.section? with
  | none =>
      obtain ⟨hplain, hsection⟩ := x.key_mem_plainFields hfield
      exact .inl (lookup_variableLayer h hplain hsection)
  | some field =>
      obtain ⟨leaves, hsection, hplain, hleaf⟩ := x.isLeaf hfield
      exact foundAs_sectionFromVariables (lowered_lowerNames s.environment) hleaf
        (lookup_variableLayer_section h hsection hplain)

/-- Settings that are made have every leaf by the order of the layers. -/
theorem make_leaf {named : Option String} {start : Location} {settings : Settings}
    (hflags : flags.Distinct) (h : Settings.make s named start flags = .ok settings) :
    ∃ path file, configFile s named start = .ok path ∧ fileLayer s path = .ok file ∧
      ∀ x : Leaf, x.layered flags s file = .ok (settings.leaf x) := by
  unfold Settings.make at h
  obtain ⟨path, hpath, h⟩ := bind_eq_ok.mp h
  obtain ⟨file, hfile, h⟩ := bind_eq_ok.mp h
  obtain ⟨layer, hlayer, h⟩ := bind_eq_ok.mp h
  refine ⟨path, file, mapError_eq_ok.mp hpath, hfile, fun x => ?_⟩
  obtain ⟨hsections, hleaf⟩ := readSettings_leaf h
  have hdistinct : (Entries.put flags "config_path"
      (path.elim .absent fun p => .text p.text)).Distinct := by
    refine hflags.put fun inner => ?_
    cases path <;> exact nofun
  have hread := hleaf x
  rw [read_leaf?_mergeLayers hdistinct (distinct_variableLayer hlayer) hsections,
    leaf?_put_configPath] at hread
  unfold Leaf.layered
  rcases foundAs_variableLayer hlayer x with hfound | ⟨inner, hfound⟩
  · rwa [← hfound]
  · rw [hfound] at hread
    -- Without a flag for the leaf it would have been read from a table.
    cases hflag : flags.leaf? x with
    | some value =>
        rw [hflag] at hread
        exact hread
    | none =>
        rw [hflag] at hread
        exact absurd hread (x.read_table inner _)

end Calls

end SwayControl
