import SwayControl.Builder.Criteria

/-!
Targeted units: sub-commands that share a clause of criteria. As long as a unit has no sub-command its
text is its clause, and criteria extend it; a criterion that comes after a sub-command makes the whole
text be written anew. Entries are what batches, bindings and rules keep of a command: units are frozen
into them, sub-commands become frozen units, and texts raw commands.
-/

namespace SwayControl

/-- What stands between the sub-commands of a unit. -/
def subCommandSeparator : String := ","

/-- The text of a unit written from its clause and its sub-commands. -/
def unitText (texts : Ref → String) (clause : Option Nat) (commands : List Value) :
    Reading String := do
  let written ← commands.mapM fun command => SubCommand.render <$> command.readSubCommand
  return clause.elim "" (fun index => texts (.group index)) ++
    subCommandSeparator.intercalate written

namespace Building

def allocateUnit (unit : TargetedUnit) : Building Nat := do
  let s ← get
  set { s with units := s.units ++ [unit] }
  return s.units.length

def startUnit : Building Nat := allocateUnit ⟨none, [], "", false⟩

def unit (index : Nat) : Building TargetedUnit := do
  match (← get).units[index]? with
  | some unit => return unit
  | none => refuse (.builder (.unit index))

def modifyUnit (index : Nat) (change : TargetedUnit → TargetedUnit) : Building Unit :=
  modify fun s => { s with units := s.units.modify index change }

def writtenUnit (index : Nat) : Building String := do
  let u ← unit index
  ofReading (unitText (← get).texts u.clause u.commands)

/-- The unit with an index, if it may be changed. -/
def editableUnit (index : Nat) : Building TargetedUnit := do
  let u ← unit index
  if u.frozen then throw (.frozen (.unit index))
  return u

/-- Adds a sub-command to a unit. The separator is written first, so it stays where the sub-command
cannot be written. -/
def addCommand (index : Nat) (command : Value) : Building Unit := do
  let u ← editableUnit index
  if !u.commands.isEmpty then
    modifyUnit index fun u => { u with text := u.text ++ subCommandSeparator }
  let text ← subCommandText command
  modifyUnit index fun u => { u with text := u.text ++ text, commands := u.commands ++ [command] }

/-- Adds a criterion to the clause of a unit, which gets a clause if it has none; the group that is
the clause. -/
def extendUnitClause (index : Nat) (clause : Option Nat) (criterion : Value) : Building Nat := do
  match clause with
  | some group =>
    addToGroup group criterion
    return group
  | none =>
    let group ← startGroup criterion
    modifyUnit index fun u => { u with clause := some group }
    return group

def addCriterion (index : Nat) (criterion : Value) : Building Unit := do
  let u ← editableUnit index
  let clause ← extendUnitClause index u.clause criterion
  -- Without sub-commands the text of the unit is that of its clause, so nothing is written anew.
  if u.commands.isEmpty then
    let text := (← group clause).text
    modifyUnit index fun u => { u with text }
  else
    -- The rebuild is noted first, so one that fails counts as well.
    modify fun s => { s with rebuilds := s.rebuilds ++ [u.commands.length] }
    let text ← writtenUnit index
    modifyUnit index fun u => { u with text }

/-- An editable copy of a unit, with a clause of its own. -/
def copyUnit (index : Nat) : Building Nat := do
  let u ← unit index
  allocateUnit { u with clause := ← u.clause.mapM copyGroup, frozen := false }

/-- A frozen copy of a unit, with a frozen clause of its own; a frozen unit is its own. The copy's clause
is frozen in its turn, so a clause is copied twice. -/
def freezeUnit (index : Nat) : Building Nat := do
  if (← unit index).frozen then
    return index
  else
    let clone ← copyUnit index
    let clause ← (← unit clone).clause.mapM freezeGroup
    modifyUnit clone fun u => { u with clause, frozen := true }
    return clone

/-- A unit of one sub-command without criteria. -/
def unitOf (command : Value) : Building Nat := do
  let index ← startUnit
  addCommand index command
  return index

/-- What a batch, a binding or a rule keeps of a command. -/
def entry : Value → Building Value
  | .builder (.unit index) => return .builder (.unit (← freezeUnit index))
  | .text s => return .raw (.text s)
  | .keyword w => return .raw (.keyword w)
  | .record (.subCommand form) fields => do
    return .builder (.unit (← freezeUnit (← unitOf (.record (.subCommand form) fields))))
  | value => return value

end Building

end SwayControl
