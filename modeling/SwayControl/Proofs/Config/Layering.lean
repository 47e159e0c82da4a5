import SwayControl.Config.Settings
import SwayControl.Proofs.Config.Discovery
import SwayControl.Proofs.Success
import Mathlib.Data.List.Nodup

/-!
Layers of settings on top of each other. A truth value is taken from the highest layer that has its
key, and from nowhere if none has.
-/

namespace SwayControl

theorem lookup_eq_none_of_notMem {β : Type} {entries : List (String × β)} {key : String}
    (h : key ∉ entries.map Prod.fst) : entries.lookup key = none := by
  rw [List.lookup_eq_none_iff]
  rintro ⟨found, value⟩ hentry
  have hne : key ≠ found := fun heq => h (heq ▸ List.mem_map_of_mem hentry)
  simpa using hne

namespace Entries

/-- The keys of entries, in their order. -/
def keys (entries : Entries) : List String := entries.map Prod.fst

variable {entries : Entries} {key other : String} {value : Datum}

theorem any_key_iff : entries.any (·.1 == key) = true ↔ key ∈ keys entries := by
  simp [keys]

theorem lookup_eq_none (h : key ∉ keys entries) : entries.lookup key = none :=
  lookup_eq_none_of_notMem h

/-- A key that is set keeps its place, a new one comes last. -/
theorem keys_put : keys (put entries key value) =
    if key ∈ keys entries then keys entries else keys entries ++ [key] := by
  unfold put
  by_cases h : key ∈ keys entries
  · rw [if_pos (any_key_iff.mpr h), if_pos h]
    simp only [keys, List.map_map]
    refine List.map_congr_left fun entry _ => ?_
    by_cases hkey : entry.1 = key <;> simp [hkey]
  · rw [if_neg (mt any_key_iff.mp h), if_neg h]
    simp [keys]

theorem nodup_put (h : (keys entries).Nodup) : (keys (put entries key value)).Nodup := by
  rw [keys_put]
  by_cases hkey : key ∈ keys entries
  · rwa [if_pos hkey]
  · rw [if_neg hkey]
    exact List.nodup_append_comm.mp (List.nodup_cons.mpr ⟨hkey, h⟩)

theorem lookup_cons (entry : String × Datum) (rest : Entries) :
    List.lookup key (entry :: rest) = if key = entry.1 then some entry.2 else rest.lookup key := by
  obtain ⟨found, value⟩ := entry
  rw [List.lookup_cons]
  by_cases h : key = found
  · simp [h]
  · have hne : (key == found) = false := by simpa using h
    simp [h, hne]

theorem lookup_put_same : (put entries key value).lookup key = some value := by
  unfold put
  by_cases h : key ∈ keys entries
  · rw [if_pos (any_key_iff.mpr h)]
    induction entries with
    | nil => cases h
    | cons entry rest ih =>
        rw [List.map_cons, lookup_cons]
        by_cases hentry : entry.1 = key
        · simp [hentry]
        · have hrest : key ∈ keys rest := by simpa [keys, Ne.symm hentry] using h
          simpa [hentry, Ne.symm hentry] using ih hrest
  · rw [if_neg (mt any_key_iff.mp h), List.lookup_append, lookup_eq_none h]
    simp

theorem lookup_put_other (hne : other ≠ key) :
    (put entries key value).lookup other = entries.lookup other := by
  unfold put
  split
  · rename_i hany
    clear hany
    induction entries with
    | nil => rfl
    | cons entry rest ih =>
        rw [List.map_cons, lookup_cons, lookup_cons, ih]
        by_cases hentry : entry.1 = key
        · simp [hentry, hne]
        · simp [hentry]
  · rw [List.lookup_append, lookup_cons, if_neg hne]
    simp

/-- What a key is read as for a truth value, if it is there. -/
def flag? (entries : Entries) (key : String) : Option (Lenient Bool) :=
  (entries.lookup key).map Datum.readFlag

theorem flag?_put_other (hne : other ≠ key) :
    (put entries key value).flag? other = entries.flag? other := by
  simp [flag?, lookup_put_other hne]

end Entries

/-- Setting a value on top of another does not change how it is read as a truth value. -/
theorem Datum.readFlag_overlay (lower value : Datum) :
    (Datum.overlay lower value).readFlag = value.readFlag := by
  cases value with
  | table higher => cases lower <;> rfl
  | _ => rfl

section Overlay

variable {entries higher : Entries} {key : String}

theorem nodup_overlayEntries (h : entries.keys.Nodup) :
    (overlayEntries entries higher).keys.Nodup := by
  induction higher generalizing entries with
  | nil => exact h
  | cons entry rest ih => exact ih (Entries.nodup_put h)

/-- A key has the value of the higher entries, on top of that of the lower ones if both have it. -/
theorem lookup_overlayEntries (h : higher.keys.Nodup) :
    (overlayEntries entries higher).lookup key =
      (higher.lookup key).elim (entries.lookup key) fun value =>
        some ((entries.lookup key).elim value fun lower => lower.overlay value) := by
  induction higher generalizing entries with
  | nil => rfl
  | cons entry rest ih =>
      obtain ⟨found, value⟩ := entry
      obtain ⟨hfound, hrest⟩ := List.nodup_cons.mp h
      rw [overlayEntries, ih hrest]
      by_cases hkey : key = found
      · subst hkey
        rw [Entries.lookup_eq_none hfound, Option.elim_none, Entries.lookup_put_same,
          Entries.lookup_cons, if_pos rfl, Option.elim_some]
        cases entries.lookup key <;> rfl
      · rw [Entries.lookup_put_other hkey, Entries.lookup_cons, if_neg hkey]

/-- What is read of a key is read from the higher entries where they have it, if a value is read alike on
top of others. -/
theorem read_overlayEntries {α : Type} {read : Datum → α} (h : higher.keys.Nodup)
    (hread : ∀ lower value, read (Datum.overlay lower value) = read value) :
    ((overlayEntries entries higher).lookup key).map read =
      ((higher.lookup key).map read).or ((entries.lookup key).map read) := by
  rw [lookup_overlayEntries h]
  cases higher.lookup key with
  | none => rfl
  | some value =>
      cases entries.lookup key with
      | none => rfl
      | some lower => exact congrArg some (hread lower value)

/-- A truth value is taken from the higher entries where they have its key. -/
theorem flag?_overlayEntries (h : higher.keys.Nodup) :
    (overlayEntries entries higher).flag? key = (higher.flag? key).or (entries.flag? key) :=
  read_overlayEntries h Datum.readFlag_overlay

end Overlay

/-- Of merged layers the flags come first, then the environment, and the file last. -/
theorem flag?_mergeLayers {flags environment file : Entries} (hflags : flags.keys.Nodup)
    (henvironment : environment.keys.Nodup) (key : String) :
    (mergeLayers flags environment file).flag? key =
      (flags.flag? key).or ((environment.flag? key).or (file.flag? key)) := by
  rw [mergeLayers, flag?_overlayEntries (nodup_overlayEntries henvironment),
    flag?_overlayEntries hflags, Option.or_assoc]

/-- Where there are no files, there is no configuration file, if there is a home directory. -/
theorem configFile_of_no_files {s : Surroundings} (h : s.tree.files = []) (hhome : ¬ s.Homeless)
    (named : Option String) (start : Location) : configFile s named start = .ok none := by
  have hfile (location : Location) : s.tree.file? location = none := by
    simp [FileTree.file?, h]
  have hisFile (path : Path) : s.tree.isFile s.working path = false := by
    simp [FileTree.isFile, FileTree.read?, hfile]
  have hnearest : nearestConfig? (s.tree.isFile s.working) start = none :=
    nearestConfig?_eq_none_iff.mpr fun directory _ => hisFile (configPlace directory)
  cases hplace : s.userConfig with
  | error fault => exact absurd (Surroundings.userConfig_eq_error_iff.mp hplace) hhome
  | ok place =>
      unfold configFile Surroundings.findConfig
      rw [hnearest, hplace]
      simp only [hisFile, bind, Except.bind]
      split
      · rfl
      · split <;> rfl

/-- Settings are read from the layers where there are these. -/
theorem make_eq_readSettings {s : Surroundings} {named : Option String} {start : Location}
    {path : Option Path} {file environment : Entries} (hpath : configFile s named start = .ok path)
    (hfile : fileLayer s path = .ok file) (hvariables : variableLayer s = .ok environment)
    (flags : Entries) : Settings.make s named start flags = readSettings path
      (mergeLayers (Entries.put flags "config_path" (path.elim .absent fun p => .text p.text))
        environment file) := by
  unfold Settings.make
  simp only [hpath, hfile, hvariables, Except.mapError, bind, Except.bind]

/-- The value that the environment gives a setting by name. -/
def variableValue? (environment : List (String × String)) (field : String) : Option Datum :=
  ((lowerNames environment).lookup (variablePrefix ++ field)).map .text

section Variables

variable {α : Type} {s : Surroundings} {environment : List (String × String)} {layer : Entries}

/-- The entries that a function gives some of the keys have these keys, in their order. -/
theorem keys_filterMap_sublist (give : String → Option Datum) (keys : List String) :
    (Entries.keys (keys.filterMap fun key => (give key).map fun value => (key, value))).Sublist
      keys := by
  induction keys with
  | nil => exact List.Sublist.slnil
  | cons key rest ih =>
      cases hgive : give key with
      | none =>
          simp only [List.filterMap_cons, hgive, Option.map_none]
          exact ih.cons key
      | some value =>
          simp only [List.filterMap_cons, hgive, Option.map_some]
          exact ih.cons_cons key

theorem lookup_filterMap (give : String → Option Datum) (keys : List String) (key : String) :
    (keys.filterMap fun key => (give key).map fun value => (key, value)).lookup key =
      if key ∈ keys then give key else none := by
  induction keys with
  | nil => rfl
  | cons first rest ih =>
      cases hgive : give first with
      | none =>
          simp only [List.filterMap_cons, hgive, Option.map_none, ih, List.mem_cons]
          by_cases hfirst : key = first <;> simp [hfirst, hgive]
      | some value =>
          simp only [List.filterMap_cons, hgive, Option.map_some, Entries.lookup_cons, ih,
            List.mem_cons]
          by_cases hfirst : key = first <;> simp [hfirst, hgive]

/-- What sections give, each an entry of its name or none, keeps their order. -/
theorem keys_sections_sublist {f : String × α → Except SettingsFault (Option Datum)}
    {fields : List (String × α)} {given : List (Option (String × Datum))}
    (h : fields.mapM (fun field => do return (← f field).map fun value => (field.1, value)) =
      .ok given) :
    (Entries.keys (given.filterMap id)).Sublist (fields.map Prod.fst) := by
  induction fields generalizing given with
  | nil =>
      cases h
      exact List.Sublist.slnil
  | cons field rest ih =>
      obtain ⟨first, others, hfirst, hothers, rfl⟩ := mapM_cons_eq_ok.mp h
      obtain ⟨found, -, hentry⟩ := bind_eq_ok.mp hfirst
      cases hentry
      cases found with
      | none => exact (ih hothers).cons field.1
      | some value => exact (ih hothers).cons_cons field.1

/-- What a section gives is found by its name. -/
theorem lookup_sections {f : String × α → Except SettingsFault (Option Datum)}
    {fields : List (String × α)} {given : List (Option (String × Datum))}
    (h : fields.mapM (fun field => do return (← f field).map fun value => (field.1, value)) =
      .ok given)
    (hnodup : (fields.map Prod.fst).Nodup) {field : String × α} (hfield : field ∈ fields) :
    f field = .ok ((given.filterMap id).lookup field.1) := by
  induction fields generalizing given with
  | nil => cases hfield
  | cons first rest ih =>
      obtain ⟨entry, others, hfirst, hothers, rfl⟩ := mapM_cons_eq_ok.mp h
      obtain ⟨found, hfound, hentry⟩ := bind_eq_ok.mp hfirst
      obtain ⟨hnew, hrest⟩ := List.nodup_cons.mp hnodup
      cases hentry
      rcases List.mem_cons.mp hfield with rfl | hmem
      · have hnone : (others.filterMap id).lookup field.1 = none :=
          Entries.lookup_eq_none fun hkey => hnew ((keys_sections_sublist hothers).subset hkey)
        rw [hfound]
        cases found with
        | none => exact congrArg Except.ok hnone.symm
        | some value => simp
      · have hne : field.1 ≠ first.1 := fun heq => hnew (heq ▸ List.mem_map_of_mem hmem)
        rw [ih hothers hrest hmem]
        cases found with
        | none => rfl
        | some value => simp [Entries.lookup_cons, hne]

/-- The layer of the environment: plain entries by name, and those of sections behind them. -/
theorem variableLayer_eq_ok (h : variableLayer s = .ok layer) :
    ∃ nested : Entries, nested.keys.Sublist (sections.map Prod.fst) ∧
      (∀ field leaves, (field, leaves) ∈ sections →
        sectionFromVariables s.nesting (lowerNames s.environment) field leaves =
          .ok (nested.lookup field)) ∧
      layer = (plainFields.filterMap fun field =>
        (variableValue? s.environment field).map fun value => (field, value)) ++ nested := by
  unfold variableLayer at h
  obtain ⟨given, hgiven, hlayer⟩ := bind_eq_ok.mp h
  cases hlayer
  refine ⟨given.filterMap id, keys_sections_sublist (f := fun field =>
    sectionFromVariables _ _ field.1 field.2) hgiven, ?_, ?_⟩
  · intro field leaves hsection
    exact lookup_sections (f := fun field => sectionFromVariables _ _ field.1 field.2) hgiven
      (by decide) hsection
  · simp [variableValue?, Option.map_map, Function.comp_def]

/-- The keys of the environment's layer differ from each other. -/
theorem nodup_variableLayer (h : variableLayer s = .ok layer) : layer.keys.Nodup := by
  obtain ⟨nested, hnested, -, rfl⟩ := variableLayer_eq_ok h
  have hall : (plainFields ++ sections.map Prod.fst).Nodup := by decide
  rw [Entries.keys, List.map_append]
  exact ((keys_filterMap_sublist _ plainFields).append hnested).nodup hall

/-- A plain value of the environment is that of the variable of its name. -/
theorem lookup_variableLayer (h : variableLayer s = .ok layer) {key : String}
    (hplain : key ∈ plainFields) (hsection : key ∉ sections.map Prod.fst) :
    layer.lookup key = variableValue? s.environment key := by
  obtain ⟨nested, hnested, -, rfl⟩ := variableLayer_eq_ok h
  have hnone : nested.lookup key = none :=
    Entries.lookup_eq_none fun hkey => hsection (hnested.subset hkey)
  rw [List.lookup_append, hnone, Option.or_none, lookup_filterMap, if_pos hplain]

theorem lookup_variableLayer_section (h : variableLayer s = .ok layer) {field : String}
    {leaves : List String} (hsection : (field, leaves) ∈ sections) (hplain : field ∉ plainFields) :
    sectionFromVariables s.nesting (lowerNames s.environment) field leaves =
      .ok (layer.lookup field) := by
  obtain ⟨nested, -, hnested, rfl⟩ := variableLayer_eq_ok h
  rw [List.lookup_append, lookup_filterMap, if_neg hplain, Option.none_or]
  exact hnested field leaves hsection

theorem flag?_variableLayer (h : variableLayer s = .ok layer) {key : String}
    (hplain : key ∈ plainFields) (hsection : key ∉ sections.map Prod.fst) :
    layer.flag? key = (variableValue? s.environment key).map Datum.readFlag := by
  rw [Entries.flag?, lookup_variableLayer h hplain hsection]

/-- Variables of which none is for a section set nothing below it. -/
theorem variablesBelow_eq_nil {field : String}
    (h : ∀ given ∈ environment,
      given.1.startsWith (variablePrefix ++ field ++ variableSeparator) = false) :
    variablesBelow environment field = [] := by
  unfold variablesBelow
  dsimp only
  induction environment with
  | nil => rfl
  | cons given rest ih =>
      obtain ⟨hgiven, hrest⟩ := List.forall_mem_cons.mp h
      rw [List.foldl_cons, hgiven]
      exact ih hrest

end Variables

end SwayControl
