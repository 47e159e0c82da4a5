import SwayControl.Proofs.Config.Flags

/-!
Constructions of settings one after the other. They share a slot, which each fills before it is read and
leaves empty, unless it fails before it fills the slot. So none is told from what came before, and each leaf
follows the order of the layers.
-/

namespace SwayControl

namespace SettingsCall

/-- Work with the slot emptied behind it leaves the slot empty whether it succeeds or not. -/
theorem emptied_run {α : Type} (work : Constructing α) (slot : Option Path) :
    (try work finally set (none : Option Path) : Constructing α).run slot = match work.run slot with
      | .ok value _ => .ok value none
      | .error fault _ => .error fault none := by
  show (tryFinally work (set (none : Option Path))).run slot = _
  simp only [tryFinally, tryFinally', EStateM.run, set, Functor.map, EStateM.map]
  cases work slot <;> rfl

/-- The settings that a call makes, or why it makes none. -/
def outcome (c : SettingsCall) : Except SettingsFault Settings :=
  Settings.make c.surroundings c.named c.start c.flags

/-- With the path of its file in the slot, a call reads the layers of the settings that it makes. -/
theorem assemble_run (c : SettingsCall) {path : Option Path}
    (hpath : configFile c.surroundings c.named c.start = .ok path) :
    (c.assemble path).run path = match c.outcome with
      | .ok settings => .ok settings path
      | .error fault => .error fault path := by
  have houtcome : c.outcome = match fileLayer c.surroundings path, variableLayer c.surroundings with
      | .error fault, _ => .error fault
      | .ok _, .error fault => .error fault
      | .ok file, .ok environment => readSettings path
          (mergeLayers (Entries.put c.flags "config_path" (path.elim .absent fun p => .text p.text))
            environment file) := by
    unfold outcome Settings.make
    simp only [hpath, Except.mapError, bind, Except.bind]
    cases fileLayer c.surroundings path <;> cases variableLayer c.surroundings <;> rfl
  rw [houtcome, assemble]
  simp only [EStateM.run_bind, EStateM.run_get]
  cases fileLayer c.surroundings path with
  | error fault => rfl
  | ok file =>
      cases variableLayer c.surroundings with
      | error fault => rfl
      | ok environment =>
          simp only [ofExcept, EStateM.run_pure]
          generalize readSettings path _ = settings
          cases settings <;> rfl

/-- A call comes to know whether there is a file for it, so that it fills the slot. -/
def Located (c : SettingsCall) : Prop :=
  ∃ path, configFile c.surroundings c.named c.start = .ok path

/-- What a call leaves in the slot: nothing, or what it found there if it does not come to fill it. -/
def left (c : SettingsCall) (slot : Option Path) : Option Path :=
  match configFile c.surroundings c.named c.start with
  | .ok _ => none
  | .error _ => slot

theorem left_of_located {c : SettingsCall} (h : c.Located) (slot : Option Path) : c.left slot = none := by
  obtain ⟨path, hpath⟩ := h
  rw [left, hpath]

theorem left_none (c : SettingsCall) : c.left none = none := by
  unfold left
  split <;> rfl

theorem located_of_outcome {c : SettingsCall} {settings : Settings} (h : c.outcome = .ok settings) :
    c.Located := by
  obtain ⟨path, hpath, -⟩ := bind_eq_ok.mp h
  exact ⟨path, mapError_eq_ok.mp hpath⟩

/-- Whatever a call finds in the slot, it comes to the same. -/
theorem perform_run (c : SettingsCall) (slot : Option Path) :
    c.perform.run slot = match c.outcome with
      | .ok settings => .ok settings (c.left slot)
      | .error fault => .error fault (c.left slot) := by
  unfold left
  cases hpath : configFile c.surroundings c.named c.start with
  | error fault =>
      unfold perform outcome Settings.make
      rw [hpath]
      rfl
  | ok path =>
      have hfilled : c.perform.run slot =
          (try c.assemble path finally set (none : Option Path) : Constructing Settings).run path := by
        unfold perform
        rw [hpath]
        rfl
      rw [hfilled, emptied_run, assemble_run c hpath]
      cases c.outcome <;> rfl

/-- What a construction makes or why it makes nothing, whatever it leaves in the slot. -/
def made : EStateM.Result SettingsFault (Option Path) Settings → Except SettingsFault Settings
  | .ok settings _ => .ok settings
  | .error fault _ => .error fault

theorem made_perform (c : SettingsCall) (slot : Option Path) : made (c.perform.run slot) = c.outcome := by
  rw [perform_run]
  cases c.outcome <;> rfl

theorem perform_run_of_located {c : SettingsCall} (h : c.Located) (slot other : Option Path) :
    c.perform.run slot = c.perform.run other := by
  rw [perform_run, perform_run, left_of_located h, left_of_located h]

/-- What the slot holds after calls, those that fail included. -/
def slotAfter (calls : List SettingsCall) (slot : Option Path) : Option Path :=
  calls.foldl (fun slot call =>
    match call.perform.run slot with
    | .ok _ left => left
    | .error _ left => left) slot

/-- Calls that find the slot empty leave it empty. -/
theorem slotAfter_none (calls : List SettingsCall) : slotAfter calls none = none := by
  induction calls with
  | nil => rfl
  | cons call rest ih =>
      rw [slotAfter, List.foldl_cons, perform_run, left_none]
      cases call.outcome <;> exact ih

/-- Each leaf of the settings that a call makes is that of the first layer that sets it, so that a layer
which sets one leaf of a section hides no other, and calls before change nothing. The environment sets a
leaf of a section by its variable unless the section is given whole as something other than a table. -/
theorem leaves_by_layer (earlier : List SettingsCall) (slot : Option Path) (c : SettingsCall) :
    made (c.perform.run (slotAfter earlier slot)) = made (c.perform.run none) ∧
      (slot = none ∨ c.Located → c.perform.run (slotAfter earlier slot) = c.perform.run none) ∧
      ∀ settings left, c.perform.run (slotAfter earlier slot) = .ok settings left →
        left = none ∧ ∃ path file, configFile c.surroundings c.named c.start = .ok path ∧
          fileLayer c.surroundings path = .ok file ∧
          ∀ x : Leaf, x.layered c.flags c.surroundings file = .ok (settings.leaf x) := by
  refine ⟨by rw [made_perform, made_perform], ?_, fun settings left h => ?_⟩
  · rintro (rfl | hlocated)
    · rw [slotAfter_none]
    · exact perform_run_of_located hlocated _ _
  rw [perform_run] at h
  cases houtcome : c.outcome with
  | error fault =>
      rw [houtcome] at h
      cases h
  | ok made =>
      rw [houtcome] at h
      cases h
      exact ⟨left_of_located (located_of_outcome houtcome) _, make_leaf c.distinct houtcome⟩

end SettingsCall

/-- Surroundings with the leaves of a section in two layers. -/
def sharedSurroundings : Surroundings :=
  ⟨[("SWAYCMD_IPC__SOCKET_PATH", "/env.sock")],
    ⟨[(["swaycmd.toml"], "socket = \"/file.sock\"\n[ipc]\ntimeout = \"2\"\n")], []⟩, [], none,
    Json.usualNesting⟩

/-- The path of the file in these surroundings. -/
def sharedPath : Path := .ofLocation ["swaycmd.toml"]

/-- What the file in these surroundings holds. -/
def sharedFile : Entries := [("socket", .text "/file.sock"), ("ipc", .table [("timeout", .text "2")])]

/-- The settings that both layers make. -/
def sharedSettings : Settings :=
  ⟨some sharedPath, false, false, false, false, some "/file.sock",
    ⟨some "/env.sock", .ofRatio false 2 1⟩, false⟩

theorem sharedSurroundings_names :
    lowerNames sharedSurroundings.environment = [("swaycmd_ipc__socket_path", "/env.sock")] := by
  decide +kernel

theorem sharedSurroundings_variables : variableLayer sharedSurroundings =
    .ok [("ipc", .table [("socket_path", .text "/env.sock")])] := by
  have hstart : "swaycmd_ipc__socket_path".startsWith
      (variablePrefix ++ "ipc" ++ variableSeparator) = true := by
    decide +kernel
  have hipc : variablesBelow [("swaycmd_ipc__socket_path", "/env.sock")] "ipc" =
      [("socket_path", .text "/env.sock")] := by
    simp only [variablesBelow, List.foldl_cons, List.foldl_nil, hstart, if_true]
    rfl
  have hrender : variablesBelow [("swaycmd_ipc__socket_path", "/env.sock")] "render" = [] :=
    variablesBelow_eq_nil (by decide +kernel)
  have hsmall : String.map smallLetter "socket_path" = "socket_path" := by decide +kernel
  have hleaf : withLeafNames ["socket_path", "timeout"] [("socket_path", .text "/env.sock")] =
      [("socket_path", .text "/env.sock")] := by
    simp only [withLeafNames, List.map_cons, List.map_nil, hsmall]
    rfl
  unfold variableLayer
  rw [sharedSurroundings_names]
  simp only [sections, List.mapM_cons, sectionFromVariables, hipc, hrender, hleaf]
  rfl

theorem sharedSurroundings_path : configFile sharedSurroundings none [] = .ok (some sharedPath) := by
  with_unfolding_all rfl

theorem sharedSurroundings_file : fileLayer sharedSurroundings (some sharedPath) = .ok sharedFile := rfl

namespace SettingsCall

/-- A call with one leaf of a section in the environment and another in the file. -/
def sharedCall : SettingsCall where
  surroundings := sharedSurroundings
  named := none
  start := []
  flags := [("quiet", .flag false)]
  distinct := ⟨by decide, by
    intro key inner h
    rw [Entries.lookup_cons] at h
    split at h <;> cases h⟩

/-- A call that fails, since the file that it names is not to be read. -/
def failingCall : SettingsCall where
  surroundings := ⟨[], ⟨[(["swaycmd.toml"], "=")], []⟩, [], none, Json.usualNesting⟩
  named := none
  start := []
  flags := []
  distinct := ⟨List.nodup_nil, nofun⟩

theorem sharedCall_outcome : sharedCall.outcome = .ok sharedSettings := by
  unfold outcome
  exact make_eq_readSettings sharedSurroundings_path sharedSurroundings_file
    sharedSurroundings_variables sharedCall.flags

theorem failingCall_outcome : ∃ fault, failingCall.outcome = .error fault := by
  have hpath : configFile failingCall.surroundings failingCall.named failingCall.start =
      .ok (some sharedPath) := by with_unfolding_all rfl
  have hfile : ∃ fault, fileLayer failingCall.surroundings (some sharedPath) =
      .error fault := ⟨_, rfl⟩
  obtain ⟨fault, hfault⟩ := hfile
  unfold outcome Settings.make
  rw [hpath]
  simp only [Except.mapError, bind, Except.bind, hfault]
  exact ⟨fault, rfl⟩

/-- After a call that failed, a section has one leaf from a variable and another from the file. -/
theorem sharedCall_leaves :
    (∃ fault, failingCall.outcome = .error fault) ∧
      sharedCall.perform.run (slotAfter [failingCall] none) = .ok sharedSettings none ∧
      sharedCall.perform.run (slotAfter [failingCall] none) = sharedCall.perform.run none ∧
      ∃ path file, configFile sharedSurroundings none [] = .ok path ∧
        fileLayer sharedSurroundings path = .ok file ∧
        ∀ x : Leaf, x.layered sharedCall.flags sharedSurroundings file = .ok (sharedSettings.leaf x) := by
  have hrun : sharedCall.perform.run (slotAfter [failingCall] none) = .ok sharedSettings none := by
    rw [perform_run, sharedCall_outcome, slotAfter_none, left_none]
  obtain ⟨-, hsame, hmade⟩ := leaves_by_layer [failingCall] none sharedCall
  exact ⟨failingCall_outcome, hrun, hsame (.inl rfl), (hmade _ _ hrun).2⟩

/-- A call with a section given whole as nothing, and a variable for one of its leaves. -/
def nullCall : SettingsCall where
  surroundings := ⟨[("SWAYCMD_IPC", "null"), ("SWAYCMD_IPC__TIMEOUT", "2")], ⟨[], []⟩, [],
    some "/home/user", Json.usualNesting⟩
  named := none
  start := []
  flags := []
  distinct := ⟨List.nodup_nil, nofun⟩

theorem nullCall_names : lowerNames nullCall.surroundings.environment =
    [("swaycmd_ipc", "null"), ("swaycmd_ipc__timeout", "2")] := by
  decide +kernel

theorem nullCall_variables : variableLayer nullCall.surroundings = .ok [] := by
  have hrender : variablesBelow [("swaycmd_ipc", "null"), ("swaycmd_ipc__timeout", "2")] "render" = [] :=
    variablesBelow_eq_nil (by decide +kernel)
  unfold variableLayer
  rw [nullCall_names]
  simp only [sections, List.mapM_cons, sectionFromVariables, hrender]
  rfl

/-- A variable for a leaf is not read where its section is given whole as nothing: no flag and no file sets
the leaf, which has its default all the same. -/
theorem variable_hidden_by_null :
    nullCall.perform.run none = .ok unsetSettings none ∧
      (lowerNames nullCall.surroundings.environment).lookup (variableBelow "ipc" "timeout") = some "2" ∧
      nullCall.flags.leaf? .timeout = none ∧
      Leaf.timeout.read (.text "2") = .ok (.ofRatio false 2 1) ∧
      unsetSettings.leaf .timeout ≠ .ofRatio false 2 1 := by
  have houtcome : nullCall.outcome = .ok unsetSettings := by
    have hhome : ¬ nullCall.surroundings.Homeless := fun hhomeless =>
      absurd (hhomeless.tilde "/home/user" (.inr ⟨rfl, rfl⟩)) (by decide)
    exact make_eq_readSettings (configFile_of_no_files rfl hhome _ _) rfl nullCall_variables
      nullCall.flags
  refine ⟨by rw [perform_run, houtcome, left_none], ?_, rfl, rfl, by decide⟩
  rw [nullCall_names]
  decide +kernel

end SettingsCall

end SwayControl
