import SwayControl.Config.Discovery
import SwayControl.Json.Reader
import Mathlib.Data.List.DropRight
import Mathlib.Data.List.Infix

/-!
What the search for the configuration file finds. The files there are come in through a test of paths only,
so that all is said of any files. Where no variable names a file, the directories that the start lies in are
its prefixes, and of those that hold a configuration file the longest is the closest. What the search finds
does not depend on any path behind the one it ends at. It finds an answer unless it needs a home directory
that there is not.
-/

namespace SwayControl

variable {isFile other : Path → Bool} {start current directory : Location} {path : Path}

/-! ### The way up -/

/-- A location lies in itself and in what its parent lies in. -/
theorem prefix_iff_eq_or_prefix_parent :
    directory <+: current ↔ directory = current ∨ directory <+: current.parent := by
  rcases List.eq_nil_or_concat current with rfl | ⟨above, name, rfl⟩
  · simp [Location.parent]
  · simp [Location.parent, List.prefix_concat_iff]

theorem mem_ancestors_iff : directory ∈ start.ancestors ↔ directory <+: start := by
  simp only [Location.ancestors, List.mem_map, List.mem_range]
  constructor
  · rintro ⟨count, -, rfl⟩
    exact List.take_prefix _ start
  · intro habove
    refine ⟨start.length - directory.length, by omega, ?_⟩
    rw [Nat.sub_sub_self habove.length_le]
    exact (List.prefix_iff_eq_take.mp habove).symm

/-- The closest of the directories that a location lies in and that hold a configuration file. -/
structure ClosestConfig (isFile : Path → Bool) (start directory : Location) : Prop where
  above : directory <+: start
  holds : isFile (configPlace directory) = true
  closest : ∀ other, other <+: start → isFile (configPlace other) = true → other <+: directory

/-- None of the directories that a location lies in holds a configuration file. -/
def NoConfig (isFile : Path → Bool) (start : Location) : Prop :=
  ∀ directory, directory <+: start → isFile (configPlace directory) = false

theorem ClosestConfig.here (h : isFile (configPlace current) = true) :
    ClosestConfig isFile current current :=
  ⟨List.prefix_rfl, h, fun _ habove _ => habove⟩

/-- A directory that holds a configuration file is the closest to itself. -/
theorem ClosestConfig.eq_here (h : isFile (configPlace current) = true)
    (hclosest : ClosestConfig isFile current directory) : directory = current := by
  have hbelow : current <+: directory := hclosest.closest current List.prefix_rfl h
  exact hclosest.above.eq_of_length (hclosest.above.length_le.antisymm hbelow.length_le)

/-- The closest to a directory without configuration file is the closest to its parent. -/
theorem closestConfig_parent_iff (h : isFile (configPlace current) = false) :
    ClosestConfig isFile current directory ↔ ClosestConfig isFile current.parent directory := by
  have hup : current.parent <+: current := List.dropLast_prefix current
  constructor
  · rintro ⟨habove, hholds, hclosest⟩
    refine ⟨?_, hholds, fun other hother => hclosest other (hother.trans hup)⟩
    rcases prefix_iff_eq_or_prefix_parent.mp habove with rfl | habove
    · rw [h] at hholds
      cases hholds
    · exact habove
  · rintro ⟨habove, hholds, hclosest⟩
    refine ⟨habove.trans hup, hholds, fun other hother hfile => ?_⟩
    rcases prefix_iff_eq_or_prefix_parent.mp hother with rfl | hother
    · rw [h] at hfile
      cases hfile
    · exact hclosest other hother hfile

theorem noConfig_parent_iff (h : isFile (configPlace current) = false) :
    NoConfig isFile current ↔ NoConfig isFile current.parent := by
  constructor
  · exact fun hnone directory habove => hnone directory (habove.trans (List.dropLast_prefix current))
  · intro hnone directory habove
    rcases prefix_iff_eq_or_prefix_parent.mp habove with rfl | habove
    · exact h
    · exact hnone directory habove

/-- At the root there is nothing above to look in. -/
theorem noConfig_top (h : isFile (configPlace current) = false) (htop : current.parent = current) :
    NoConfig isFile current := by
  cases current with
  | nil =>
      intro directory habove
      rwa [List.prefix_nil.mp habove]
  | cons name rest =>
      have hlength := congrArg List.length htop
      simp [Location.parent] at hlength

theorem NoConfig.not_closest (h : NoConfig isFile start) : ¬ ClosestConfig isFile start directory := by
  intro hclosest
  have hholds := hclosest.holds
  rw [h directory hclosest.above] at hholds
  cases hholds

theorem nearestConfig?_eq_some_iff : nearestConfig? isFile start = some path ↔
    ∃ directory, ClosestConfig isFile start directory ∧ path = configPlace directory := by
  fun_induction nearestConfig? isFile start with
  | case1 current hfile =>
      constructor
      · intro h
        cases h
        exact ⟨current, .here hfile, rfl⟩
      · rintro ⟨directory, hclosest, rfl⟩
        rw [hclosest.eq_here hfile]
  | case2 current hfile htop =>
      have hnone : NoConfig isFile current := noConfig_top (by simpa using hfile) htop
      constructor
      · exact nofun
      · rintro ⟨directory, hclosest, -⟩
        exact absurd hclosest hnone.not_closest
  | case3 current hfile _ ih =>
      have hfile : isFile (configPlace current) = false := by simpa using hfile
      simp only [ih, closestConfig_parent_iff hfile]

theorem nearestConfig?_eq_none_iff : nearestConfig? isFile start = none ↔ NoConfig isFile start := by
  fun_induction nearestConfig? isFile start with
  | case1 current hfile =>
      constructor
      · exact nofun
      · exact fun hnone => absurd (ClosestConfig.here hfile) hnone.not_closest
  | case2 current hfile htop =>
      exact iff_of_true rfl (noConfig_top (by simpa using hfile) htop)
  | case3 current hfile _ ih =>
      have hfile : isFile (configPlace current) = false := by simpa using hfile
      rw [ih, noConfig_parent_iff hfile]

namespace Surroundings

variable {s : Surroundings} {name text value : String} {answer : Except HomeFault (Option Path)}

/-! ### The answer -/

/-- The environment gives a variable a value that is not empty. -/
def Sets (s : Surroundings) (name value : String) : Prop :=
  s.environment.lookup name = some value ∧ value ≠ ""

theorem lookup?_eq_some_iff : s.lookup? name = some value ↔ s.Sets name value := by
  simp [lookup?, Sets, Option.filter_eq_some_iff]

theorem lookup?_eq_none_iff : s.lookup? name = none ↔ ∀ value, ¬ s.Sets name value := by
  simp only [Option.eq_none_iff_forall_ne_some, ne_eq, lookup?_eq_some_iff]

/-- What names the home directory: the text that the environment has for it, also an empty one, or where
it has none the text of the system. -/
def NamesHome (s : Surroundings) (text : String) : Prop :=
  s.environment.lookup "HOME" = some text ∨ s.environment.lookup "HOME" = none ∧ s.account = some text

theorem namesHome_iff : s.NamesHome text ↔ (s.environment.lookup "HOME").or s.account = some text := by
  unfold NamesHome
  cases s.environment.lookup "HOME" <;> simp

/-- Where the configuration file of the user is. -/
inductive IsUserConfig (s : Surroundings) : Path → Prop
  | named {base : String} (named : s.Sets "XDG_CONFIG_HOME" base) :
      IsUserConfig s ((Path.ofText base).append ["swaycmd", configFileName])
  | home {text : String} {home : Path} (unnamed : ∀ base, ¬ s.Sets "XDG_CONFIG_HOME" base)
      (names : s.NamesHome text) (isHome : homeOfText? text = some home) :
      IsUserConfig s (home.append [".config", "swaycmd", configFileName])

/-- There is no home directory to look in where it is needed: nothing names it but what begins with a
tilde. -/
structure Homeless (s : Surroundings) : Prop where
  unnamed : ∀ base, ¬ s.Sets "XDG_CONFIG_HOME" base
  tilde : ∀ text, s.NamesHome text → text.toList.head? = some '~'

/-- A text names no home directory just where it begins with a tilde. -/
theorem homeOfText?_eq_none_iff : homeOfText? text = none ↔ text.toList.head? = some '~' := by
  have hbare : (text.toList.reverse.dropWhile (· == '/')).reverse =
      text.toList.rdropWhile (· == '/') := rfl
  unfold homeOfText?
  dsimp only
  rw [hbare]
  cases h : text.toList.rdropWhile (· == '/') with
  | nil =>
      have hslashes := List.rdropWhile_eq_nil_iff.mp h
      refine iff_of_false nofun fun hhead => ?_
      exact absurd (hslashes '~' (List.mem_of_head? hhead)) (by decide)
  | cons c rest =>
      have hprefix : c :: rest <+: text.toList := by
        rw [← h]
        exact List.rdropWhile_prefix _ _
      obtain ⟨slashes, htext⟩ := hprefix
      rw [← htext, List.cons_append, List.head?_cons]
      split
      · exact absurd ‹_› (List.cons_ne_nil c rest)
      · rename_i htilde
        cases htilde
        exact iff_of_true rfl rfl
      · rename_i hother
        exact iff_of_false nofun fun hhead => hother rest (by rw [Option.some.inj hhead])

theorem userConfig_eq_ok_iff : s.userConfig = .ok path ↔ s.IsUserConfig path := by
  unfold userConfig home?
  constructor
  · intro h
    cases hbase : s.lookup? "XDG_CONFIG_HOME" with
    | some base =>
        rw [hbase] at h
        cases h
        exact .named (lookup?_eq_some_iff.mp hbase)
    | none =>
        rw [hbase] at h
        cases hhome : ((s.environment.lookup "HOME").or s.account).bind homeOfText? with
        | none =>
            rw [hhome] at h
            cases h
        | some home =>
            rw [hhome] at h
            cases h
            obtain ⟨text, hnames, hisHome⟩ := Option.bind_eq_some_iff.mp hhome
            have hplace := IsUserConfig.home (lookup?_eq_none_iff.mp hbase)
              (namesHome_iff.mpr hnames) hisHome
            simpa [Path.append] using hplace
  · intro h
    cases h with
    | named named =>
        rw [lookup?_eq_some_iff.mpr named]
        rfl
    | home unnamed names isHome =>
        rw [lookup?_eq_none_iff.mpr unnamed, namesHome_iff.mp names, Option.bind_some, isHome]
        simp [Path.append, pure, Except.pure, bind, Except.bind]

theorem userConfig_eq_error_iff {fault : HomeFault} : s.userConfig = .error fault ↔ s.Homeless := by
  cases fault
  unfold userConfig home?
  constructor
  · intro h
    cases hbase : s.lookup? "XDG_CONFIG_HOME" with
    | some base =>
        rw [hbase] at h
        cases h
    | none =>
        refine ⟨lookup?_eq_none_iff.mp hbase, fun text hnames => ?_⟩
        rw [hbase, namesHome_iff.mp hnames, Option.bind_some] at h
        rw [← homeOfText?_eq_none_iff]
        cases hhome : homeOfText? text with
        | none => rfl
        | some home =>
            rw [hhome] at h
            cases h
  · rintro ⟨unnamed, htilde⟩
    have hnone : ((s.environment.lookup "HOME").or s.account).bind homeOfText? = none := by
      rw [Option.bind_eq_none_iff]
      exact fun text hnames => homeOfText?_eq_none_iff.mpr (htilde text (namesHome_iff.mpr hnames))
    rw [lookup?_eq_none_iff.mpr unnamed, hnone]
    rfl

/-- What the search for the configuration file answers. -/
inductive Discovers (s : Surroundings) (isFile : Path → Bool) (start : Location) :
    Except HomeFault (Option Path) → Prop
  | named {text : String} (named : s.Sets configVariable text) (found : isFile (.ofText text) = true) :
      Discovers s isFile start (.ok (some (.ofText text)))
  | misnamed {text : String} (named : s.Sets configVariable text)
      (missing : isFile (.ofText text) = false) : Discovers s isFile start (.ok none)
  | nearest {directory : Location} (unnamed : ∀ text, ¬ s.Sets configVariable text)
      (closest : ClosestConfig isFile start directory) :
      Discovers s isFile start (.ok (some (configPlace directory)))
  | user {path : Path} (unnamed : ∀ text, ¬ s.Sets configVariable text)
      (nowhere : NoConfig isFile start) (ofUser : s.IsUserConfig path) (found : isFile path = true) :
      Discovers s isFile start (.ok (some path))
  | nothing {path : Path} (unnamed : ∀ text, ¬ s.Sets configVariable text)
      (nowhere : NoConfig isFile start) (ofUser : s.IsUserConfig path)
      (missing : isFile path = false) : Discovers s isFile start (.ok none)
  | homeless (unnamed : ∀ text, ¬ s.Sets configVariable text) (nowhere : NoConfig isFile start)
      (homeless : s.Homeless) : Discovers s isFile start (.error .undetermined)

theorem discovers_findConfig (s : Surroundings) (isFile : Path → Bool) (start : Location) :
    s.Discovers isFile start (s.findConfig start isFile) := by
  unfold findConfig
  cases hname : s.lookup? configVariable with
  | some text =>
      have hnamed : s.Sets configVariable text := lookup?_eq_some_iff.mp hname
      dsimp only
      cases hfile : isFile (.ofText text) with
      | true => exact .named hnamed hfile
      | false => exact .misnamed hnamed hfile
  | none =>
      have hunnamed := lookup?_eq_none_iff.mp hname
      cases hnearest : nearestConfig? isFile start with
      | some path =>
          obtain ⟨directory, hclosest, rfl⟩ := nearestConfig?_eq_some_iff.mp hnearest
          exact .nearest hunnamed hclosest
      | none =>
          have hnone := nearestConfig?_eq_none_iff.mp hnearest
          dsimp only
          cases huser : s.userConfig with
          | error fault => exact .homeless hunnamed hnone (userConfig_eq_error_iff.mp huser)
          | ok path =>
              have hplace := userConfig_eq_ok_iff.mp huser
              dsimp only [bind, Except.bind]
              cases hfile : isFile path with
              | true => exact .user hunnamed hnone hplace hfile
              | false => exact .nothing hunnamed hnone hplace hfile

theorem Discovers.findConfig_eq (h : s.Discovers isFile start answer) :
    s.findConfig start isFile = answer := by
  unfold findConfig
  cases h with
  | named named found =>
      rw [lookup?_eq_some_iff.mpr named]
      exact congrArg Except.ok (if_pos found)
  | misnamed named missing =>
      rw [lookup?_eq_some_iff.mpr named]
      exact congrArg Except.ok (if_neg (by simp [missing]))
  | nearest unnamed closest =>
      rw [lookup?_eq_none_iff.mpr unnamed, nearestConfig?_eq_some_iff.mpr ⟨_, closest, rfl⟩]
      rfl
  | user unnamed nowhere ofUser found =>
      rw [lookup?_eq_none_iff.mpr unnamed, nearestConfig?_eq_none_iff.mpr nowhere,
        userConfig_eq_ok_iff.mpr ofUser]
      exact congrArg Except.ok (if_pos found)
  | nothing unnamed nowhere ofUser missing =>
      rw [lookup?_eq_none_iff.mpr unnamed, nearestConfig?_eq_none_iff.mpr nowhere,
        userConfig_eq_ok_iff.mpr ofUser]
      exact congrArg Except.ok (if_neg (by simp [missing]))
  | homeless unnamed nowhere homeless =>
      rw [lookup?_eq_none_iff.mpr unnamed, nearestConfig?_eq_none_iff.mpr nowhere,
        userConfig_eq_error_iff.mpr homeless]
      rfl

theorem findConfig_eq_iff : s.findConfig start isFile = answer ↔ s.Discovers isFile start answer := by
  constructor
  · rintro rfl
    exact s.discovers_findConfig isFile start
  · exact Discovers.findConfig_eq

/-- What the search for the configuration file asks for: the file that is named and no other, or the
places on the way up as far as the first that holds a file, and that of the user if none does. -/
inductive Consults (s : Surroundings) (isFile : Path → Bool) (start : Location) : Path → Prop
  | named {text : String} (named : s.Sets configVariable text) : Consults s isFile start (.ofText text)
  | place {directory : Location} (unnamed : ∀ text, ¬ s.Sets configVariable text)
      (above : directory <+: start)
      (unfound : ∀ nearer, nearer <+: start → directory <+: nearer → nearer ≠ directory →
        isFile (configPlace nearer) = false) : Consults s isFile start (configPlace directory)
  | user {path : Path} (unnamed : ∀ text, ¬ s.Sets configVariable text)
      (nowhere : NoConfig isFile start) (ofUser : s.IsUserConfig path) : Consults s isFile start path

/-- From the closest that holds a file down to the start all places are asked for. -/
theorem Consults.below_closest (unnamed : ∀ text, ¬ s.Sets configVariable text)
    (hclosest : ClosestConfig isFile start directory) (hbelow : directory <+: current)
    (habove : current <+: start) : s.Consults isFile start (configPlace current) := by
  refine .place unnamed habove fun nearer hnearer hcurrent hne => ?_
  by_contra hfile
  have hup : nearer <+: current :=
    (hclosest.closest nearer hnearer (by simpa using hfile)).trans hbelow
  exact hne (hup.eq_of_length (hup.length_le.antisymm hcurrent.length_le))

/-- Where no place holds a file, all are asked for. -/
theorem Consults.of_noConfig (unnamed : ∀ text, ¬ s.Sets configVariable text)
    (hnone : NoConfig isFile start) (habove : directory <+: start) :
    s.Consults isFile start (configPlace directory) :=
  .place unnamed habove fun nearer hnearer _ _ => hnone nearer hnearer

theorem Consults.mem_configCandidates (h : s.Consults isFile start path) (named : Option String) :
    path ∈ s.configCandidates named start := by
  simp only [configCandidates, List.mem_append, List.mem_map, Option.mem_toList]
  cases h with
  | named h => exact .inl (.inl ⟨_, .inr (lookup?_eq_some_iff.mpr h), rfl⟩)
  | place _ above _ => exact .inl (.inr ⟨_, mem_ancestors_iff.mpr above, rfl⟩)
  | user _ _ ofUser =>
      rw [userConfig_eq_ok_iff.mpr ofUser]
      exact .inr rfl

/-- The search depends on nothing but the paths that it asks for. -/
theorem findConfig_congr (h : ∀ path, s.Consults isFile start path → other path = isFile path) :
    s.findConfig start other = s.findConfig start isFile := by
  have hnone (unnamed : ∀ text, ¬ s.Sets configVariable text) (nowhere : NoConfig isFile start) :
      NoConfig other start := fun directory habove =>
    (h _ (.of_noConfig unnamed nowhere habove)).trans (nowhere directory habove)
  have hdiscovers := s.discovers_findConfig isFile start
  rw [findConfig_eq_iff]
  generalize s.findConfig start isFile = answer at hdiscovers ⊢
  cases hdiscovers with
  | named named found => exact .named named ((h _ (.named named)).trans found)
  | misnamed named missing => exact .misnamed named ((h _ (.named named)).trans missing)
  | @nearest directory unnamed closest =>
      refine .nearest unnamed ⟨closest.above, ?_, fun found habove hfile => ?_⟩
      · exact (h _ (.below_closest unnamed closest List.prefix_rfl closest.above)).trans closest.holds
      · -- Of what is above the closest nothing is known, and nothing has to be: it is not closer.
        rcases List.prefix_or_prefix_of_prefix habove closest.above with hup | hdown
        · exact hup
        · have hsame := h _ (.below_closest unnamed closest hdown habove)
          exact closest.closest found habove (hsame.symm.trans hfile)
  | user unnamed nowhere ofUser found =>
      have hsame := h _ (.user unnamed nowhere ofUser)
      exact .user unnamed (hnone unnamed nowhere) ofUser (hsame.trans found)
  | nothing unnamed nowhere ofUser missing =>
      have hsame := h _ (.user unnamed nowhere ofUser)
      exact .nothing unnamed (hnone unnamed nowhere) ofUser (hsame.trans missing)
  | homeless unnamed nowhere homeless => exact .homeless unnamed (hnone unnamed nowhere) homeless

/-- To find the configuration file of a run it is enough to gather the candidates. -/
theorem findConfig_of_candidates (named : Option String)
    (h : ∀ path ∈ s.configCandidates named start, other path = isFile path) :
    s.findConfig start other = s.findConfig start isFile :=
  findConfig_congr fun path hpath => h path (hpath.mem_configCandidates named)

end Surroundings

/-! ### Directories of the name of a configuration file -/

namespace FileTree

variable {t : FileTree} {location found working : Location} {parts : List String}

end FileTree

namespace Surroundings

end Surroundings

end SwayControl
