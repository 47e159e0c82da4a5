import SwayControl.Proofs.Config.Calls

/-!
Where the path of the socket comes from. The setting by itself and the one of the connection's section are
layered apart before the first is taken over the second, and an empty value counts as set. So the path is the
documented one just where neither the file comes before the section's variable nor an empty value hides a
path below it.
-/

namespace SwayControl

/-- The path that a value names. An empty text names none. -/
def namedPath : Option Datum → Option String
  | some (.text path) => if path.isEmpty then none else some path
  | _ => none

/-- A value that is set and names no path. -/
def Blank (value : Option Datum) : Prop := value ≠ none ∧ namedPath value = none

section Naming

variable {value lower : Option Datum} {path : String}

@[simp] theorem namedPath_none : namedPath none = none := rfl

theorem namedPath_or (h : value ≠ none) : namedPath (value.or lower) = namedPath value := by
  cases value with
  | none => exact absurd rfl h
  | some _ => rfl

theorem Blank.namedPath_or (h : Blank value) : namedPath (value.or lower) = none :=
  (SwayControl.namedPath_or h.1).trans h.2

theorem namedPath_or_of_named (h : namedPath value = some path) :
    namedPath (value.or lower) = some path := by
  cases value with
  | none => cases h
  | some _ => exact h

/-- A value is not set, or set and empty, or it names a path. -/
theorem unset_or_blank_or_named (value : Option Datum) :
    value = none ∨ Blank value ∨ ∃ path, namedPath value = some path := by
  cases hvalue : namedPath value with
  | some path => exact .inr (.inr ⟨path, rfl⟩)
  | none =>
      cases value with
      | none => exact .inl rfl
      | some _ => exact .inr (.inl ⟨nofun, hvalue⟩)

end Naming

/-- What the sources of the path hold. The environment and the file may set it by itself and in the section
of the connection. -/
structure SocketSources where
  flag : Option String
  environment : Option Datum
  environmentIpc : Option Datum
  file : Option Datum
  fileIpc : Option Datum
  windowManager : Option String

namespace SocketSources

variable {sources : SocketSources}

/-- The path by the documented order: the flag, the environment, the file, the window manager. -/
def documented (sources : SocketSources) : Option String :=
  sources.flag.or <| (namedPath sources.environment).or <| (namedPath sources.environmentIpc).or <|
    (namedPath sources.file).or <| (namedPath sources.fileIpc).or sources.windowManager

/-- The path by the order in which layered settings are asked. -/
def layered (sources : SocketSources) : Option String :=
  sources.flag.or <| (namedPath (sources.environment.or sources.file)).or <|
    (namedPath (sources.environmentIpc.or sources.fileIpc)).or sources.windowManager

/-- How layered settings lead astray where there is no flag. -/
inductive Astray (sources : SocketSources) : Prop where
  /-- The file names one path, and a variable of the section another that should come first. -/
  | fileFirst {path other : String} (noFlag : sources.flag = none)
      (unset : sources.environment = none) (hidden : namedPath sources.environmentIpc = some path)
      (taken : namedPath sources.file = some other) (differs : path ≠ other)
  /-- An empty variable hides the path of the file. -/
  | emptyOwn {path : String} (noFlag : sources.flag = none) (empty : Blank sources.environment)
      (unset : sources.environmentIpc = none) (hidden : namedPath sources.file = some path)
      (differs : (namedPath sources.fileIpc).or sources.windowManager ≠ some path)
  /-- An empty variable of the section hides the path in the section of the file. -/
  | emptySection {path : String} (noFlag : sources.flag = none) (unset : sources.environment = none)
      (empty : Blank sources.environmentIpc) (noFile : namedPath sources.file = none)
      (hidden : namedPath sources.fileIpc = some path) (differs : sources.windowManager ≠ some path)
  /-- Two empty variables hide what the file names. -/
  | emptyBoth {path : String} (noFlag : sources.flag = none) (empty : Blank sources.environment)
      (emptySection : Blank sources.environmentIpc)
      (hidden : (namedPath sources.file).or (namedPath sources.fileIpc) = some path)
      (differs : sources.windowManager ≠ some path)

theorem Astray.layered_ne (h : sources.Astray) : sources.layered ≠ sources.documented := by
  unfold layered documented
  cases h with
  | fileFirst noFlag unset hidden taken differs =>
      simpa [noFlag, unset, hidden, taken, namedPath_or_of_named hidden] using Ne.symm differs
  | emptyOwn noFlag empty unset hidden differs =>
      simpa [noFlag, unset, hidden, empty.namedPath_or, empty.2] using differs
  | emptySection noFlag unset empty noFile hidden differs =>
      simpa [noFlag, unset, noFile, hidden, empty.namedPath_or, empty.2] using differs
  | emptyBoth noFlag empty emptySection hidden differs =>
      simpa [noFlag, hidden, empty.namedPath_or, empty.2, emptySection.namedPath_or,
        emptySection.2, ← Option.or_assoc] using differs

theorem layered_eq_of_unset (h : ¬ sources.Astray) (noFlag : sources.flag = none)
    (unset : sources.environment = none) : sources.layered = sources.documented := by
  simp only [layered, documented, noFlag, unset, namedPath_none, Option.none_or]
  obtain unsetIpc | emptyIpc | ⟨path, named⟩ := unset_or_blank_or_named sources.environmentIpc
  · rw [unsetIpc]
    rfl
  · rw [emptyIpc.namedPath_or, emptyIpc.2]
    cases hfile : namedPath sources.file with
    | some path => rfl
    | none =>
        cases hidden : namedPath sources.fileIpc with
        | none => rfl
        | some path =>
            by_contra differs
            exact h (.emptySection noFlag unset emptyIpc hfile hidden differs)
  · rw [named, namedPath_or_of_named named]
    cases hfile : namedPath sources.file with
    | none => rfl
    | some other =>
        by_contra differs
        exact h (.fileFirst noFlag unset named hfile fun heq => differs (by simp [heq]))

theorem layered_eq_of_blank (h : ¬ sources.Astray) (noFlag : sources.flag = none)
    (empty : Blank sources.environment) : sources.layered = sources.documented := by
  simp only [layered, documented, noFlag, empty.namedPath_or, empty.2, Option.none_or]
  obtain unsetIpc | emptyIpc | ⟨path, named⟩ := unset_or_blank_or_named sources.environmentIpc
  · rw [unsetIpc, Option.none_or]
    cases hidden : namedPath sources.file with
    | none => rfl
    | some path =>
        by_contra differs
        exact h (.emptyOwn noFlag empty unsetIpc hidden differs)
  · rw [emptyIpc.namedPath_or, emptyIpc.2]
    cases hidden : (namedPath sources.file).or (namedPath sources.fileIpc) with
    | none => simp [← Option.or_assoc, hidden]
    | some path =>
        by_contra differs
        refine h (.emptyBoth noFlag empty emptyIpc hidden ?_)
        simpa [← Option.or_assoc, hidden] using differs
  · rw [named, namedPath_or_of_named named]
    rfl

theorem layered_eq (h : ¬ sources.Astray) : sources.layered = sources.documented := by
  cases noFlag : sources.flag with
  | some path =>
      unfold layered documented
      rw [noFlag]
      rfl
  | none =>
      obtain unset | empty | ⟨path, named⟩ := unset_or_blank_or_named sources.environment
      · exact layered_eq_of_unset h noFlag unset
      · exact layered_eq_of_blank h noFlag empty
      · unfold layered documented
        rw [named, namedPath_or_of_named named]
        rfl

theorem layered_eq_documented_iff : sources.layered = sources.documented ↔ ¬ sources.Astray :=
  ⟨fun heq h => h.layered_ne heq, layered_eq⟩

end SocketSources

/-- The sources of the path in a run. -/
def Globals.socketSources (g : Globals) (s : Surroundings) (file : Entries) : SocketSources where
  flag := g.socket.filter fun socket => !socket.isEmpty
  environment := Leaf.socket.ofVariables? s
  environmentIpc := Leaf.socketPath.ofVariables? s
  file := file.leaf? .socket
  fileIpc := file.leaf? .socketPath
  windowManager := s.lookup? socketVariable

section Runs

variable {g : Globals} {s : Surroundings} {settings : Settings} {value : Option Datum}

theorem Globals.distinct_layer (g : Globals) : Entries.Distinct g.layer := by
  refine ⟨g.nodup_layer, fun key inner h => ?_⟩
  obtain ⟨before, after, hlayer, -⟩ := List.lookup_eq_some_iff.mp h
  have hmem : (key, Datum.table inner) ∈ g.layer := by simp [hlayer]
  unfold layer at hmem
  cases g.socket.filter fun socket => !socket.isEmpty <;> simp_all

theorem Globals.leaf?_layer_socket (g : Globals) :
    Entries.leaf? g.layer .socket = (g.socket.filter fun socket => !socket.isEmpty).map .text := by
  unfold layer
  cases g.socket.filter fun socket => !socket.isEmpty <;> rfl

theorem Globals.leaf?_layer_socketPath (g : Globals) : Entries.leaf? g.layer .socketPath = none := by
  unfold layer
  cases g.socket.filter fun socket => !socket.isEmpty <;> rfl

/-- A path that is read and not empty is the one that its value names. -/
theorem filter_readOptionalText {path : Option String}
    (h : (value.map Datum.readOptionalText).getD (.ok none) = .ok path) :
    (path.filter fun p => !p.isEmpty) = namedPath value := by
  cases value with
  | none =>
      cases h
      rfl
  | some value =>
      cases value with
      | absent =>
          cases h
          rfl
      | text p =>
          cases h
          cases hp : p.isEmpty <;> simp [namedPath, Option.filter, hp]
      | _ => cases h

theorem socketPath_eq_layered (h : g.settings s = .ok settings) :
    ∃ path file, configFile s g.config s.working = .ok path ∧ fileLayer s path = .ok file ∧
      settings.socketPath s = (g.socketSources s file).layered := by
  obtain ⟨path, file, hpath, hfile, hleaf⟩ := make_leaf g.distinct_layer h
  refine ⟨path, file, hpath, hfile, ?_⟩
  have hsocket : (settings.socket.filter fun p => !p.isEmpty) = namedPath
      ((Entries.leaf? g.layer .socket).or
        ((Leaf.socket.ofVariables? s).or (file.leaf? .socket))) :=
    filter_readOptionalText (hleaf .socket)
  have hsocketPath : (settings.ipc.socketPath.filter fun p => !p.isEmpty) = namedPath
      ((Entries.leaf? g.layer .socketPath).or
        ((Leaf.socketPath.ofVariables? s).or (file.leaf? .socketPath))) :=
    filter_readOptionalText (hleaf .socketPath)
  unfold Settings.socketPath SocketSources.layered Globals.socketSources
  dsimp only
  rw [hsocket, hsocketPath, g.leaf?_layer_socketPath, g.leaf?_layer_socket, Option.none_or]
  cases hflag : g.socket.filter fun socket => !socket.isEmpty with
  | none => rfl
  | some path =>
      have hpath : path.isEmpty = false := by
        simpa using (Option.filter_eq_some_iff.mp hflag).2
      simp [namedPath, hpath]

/-- The path of the socket in a run is the documented one just where layered settings do not lead astray. -/
theorem socketPath_documented_iff (h : g.settings s = .ok settings) :
    ∃ path file, configFile s g.config s.working = .ok path ∧ fileLayer s path = .ok file ∧
      settings.socketPath s = (g.socketSources s file).layered ∧
      (settings.socketPath s = (g.socketSources s file).documented ↔
        ¬ (g.socketSources s file).Astray) := by
  obtain ⟨path, file, hpath, hfile, hlayered⟩ := socketPath_eq_layered h
  exact ⟨path, file, hpath, hfile, hlayered, hlayered ▸ SocketSources.layered_eq_documented_iff⟩

theorem shared_settings : (Globals.ofGiven []).settings sharedSurroundings = .ok sharedSettings := by
  unfold Globals.settings
  exact make_eq_readSettings sharedSurroundings_path sharedSurroundings_file
    sharedSurroundings_variables _

theorem shared_socketPath_documented_iff :
    (Globals.ofGiven []).settings sharedSurroundings = .ok sharedSettings ∧
      ∃ path file, configFile sharedSurroundings none [] = .ok path ∧
        fileLayer sharedSurroundings path = .ok file ∧
        sharedSettings.socketPath sharedSurroundings =
          ((Globals.ofGiven []).socketSources sharedSurroundings file).layered ∧
        (sharedSettings.socketPath sharedSurroundings =
            ((Globals.ofGiven []).socketSources sharedSurroundings file).documented ↔
          ¬ ((Globals.ofGiven []).socketSources sharedSurroundings file).Astray) :=
  ⟨shared_settings, socketPath_documented_iff shared_settings⟩

/-- A variable of the section names a path, and the run connects to the one that the file names. -/
theorem file_before_variable :
    (Globals.ofGiven []).settings sharedSurroundings = .ok sharedSettings ∧
      configFile sharedSurroundings none [] = .ok (some sharedPath) ∧
      fileLayer sharedSurroundings (some sharedPath) = .ok sharedFile ∧
      sharedSettings.socketPath sharedSurroundings = some "/file.sock" ∧
      ((Globals.ofGiven []).socketSources sharedSurroundings sharedFile).documented =
        some "/env.sock" := by
  have howned : Leaf.socket.ofVariables? sharedSurroundings = none := by
    rw [Leaf.ofVariables?, Leaf.section?, variableValue?, sharedSurroundings_names]
    rfl
  have hipc : Leaf.socketPath.ofVariables? sharedSurroundings = some (.text "/env.sock") := by
    rw [Leaf.ofVariables?, Leaf.section?, sharedSurroundings_names]
    rfl
  refine ⟨shared_settings, sharedSurroundings_path, sharedSurroundings_file, rfl, ?_⟩
  simp only [SocketSources.documented, Globals.socketSources, howned, hipc]
  rfl

end Runs

end SwayControl
