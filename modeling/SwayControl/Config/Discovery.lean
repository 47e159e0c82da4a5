import SwayControl.Config.Files

/-!
Finding the configuration file. A variable may name it, and then no other is looked for; else the
nearest one counts, in the starting directory or one that it lies in, and last the file of the user. That
file may lie in the home directory, and then there must be one.
-/

namespace SwayControl

def configFileName : String := "swaycmd.toml"

def configVariable : String := "SWAYCMD_CONFIG"

/-- Where the configuration file of a directory is, whether there is one or not. -/
def configPlace (directory : Location) : Path := .ofLocation (directory ++ [configFileName])

/-- The nearest configuration file, in a directory or in one that it lies in. The search goes up until the
parent is no other directory, which is so at the root. -/
def nearestConfig? (isFile : Path → Bool) (current : Location) : Option Path :=
  if isFile (configPlace current) then some (configPlace current)
  else if current.parent = current then none
  else nearestConfig? isFile current.parent
termination_by current.length
decreasing_by exact Location.length_parent_lt ‹_›

/-- The home directory is needed, and there is none. -/
inductive HomeFault where
  | undetermined
deriving DecidableEq, Repr

def HomeFault.message : HomeFault → String
  | .undetermined => "Could not determine home directory."

/-- The home directory that a text names. Slashes at its end count for nothing, and a text that begins with
a tilde names none. -/
def homeOfText? (text : String) : Option Path :=
  let bare := (text.toList.reverse.dropWhile (· == '/')).reverse
  match bare with
  | [] => some (.ofLocation [])
  | '~' :: _ => none
  | bare => some (.ofText (String.ofList bare))

namespace Surroundings

/-- The home directory: the one that the environment names, also as an empty text, or else the one that
the system has for the user. -/
def home? (s : Surroundings) : Option Path :=
  ((s.environment.lookup "HOME").or s.account).bind homeOfText?

/-- Where the configuration file of the user is, whether there is one or not. -/
def userConfig (s : Surroundings) : Except HomeFault Path := do
  let base ← match s.lookup? "XDG_CONFIG_HOME" with
    | some base => pure (Path.ofText base)
    | none =>
      match s.home? with
      | some home => pure (home.append [".config"])
      | none => throw .undetermined
  return base.append ["swaycmd", configFileName]

/-- The configuration file that a run from a directory reads. Which paths lead to files is told by a test;
the test of the run asks its own tree. -/
def findConfig (s : Surroundings) (start : Location)
    (isFile : Path → Bool := s.tree.isFile s.working) : Except HomeFault (Option Path) :=
  match s.lookup? configVariable with
  | some named =>
    let path := Path.ofText named
    return if isFile path then some path else none
  | none =>
    match nearestConfig? isFile start with
    | some path => return some path
    | none => do
      -- Where the file of the user is matters only here, and so does the want of a home directory.
      let path ← s.userConfig
      return if isFile path then some path else none

/-- All paths that a configuration file of a run may have: the one that is named in words or by the
variable, those above a directory, and that of the user. -/
def configCandidates (s : Surroundings) (named : Option String) (start : Location) : List Path :=
  (named.toList ++ (s.lookup? configVariable).toList).map Path.ofText ++
    start.ancestors.map configPlace ++ s.userConfig.toOption.toList

end Surroundings

end SwayControl
