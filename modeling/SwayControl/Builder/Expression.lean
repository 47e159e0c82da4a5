import SwayControl.Builder.Batch
import SwayControl.Builder.Record

/-!
Expressions: how a caller describes a value to be built, part by part from left to right. Names stand
for the values that a script holds in its slots.
-/

namespace SwayControl

/-- A value that can be written down: it holds no other, and above all no builder, which a script can
only name by a slot. -/
inductive Literal where
  | absent
  | flag (on : Bool)
  | int (n : Int)
  | real (x : Binary64)
  | text (s : String)
  | keyword (w : Word)
deriving Repr, Inhabited

def Literal.value : Literal → Value
  | .absent => .absent
  | .flag on => .flag on
  | .int n => .int n
  | .real x => .real x
  | .text s => .text s
  | .keyword w => .keyword w

/-- What an expression adds to a unit. -/
inductive UnitPart where
  | criterion | command
deriving DecidableEq, Repr

/-- A description of a value. A record lists the fields that are given. -/
inductive Expression where
  | literal (l : Literal)
  | tuple (items : List Expression)
  | record (form : Form) (given : List (String × Expression))
  | group (criteria : List Expression) (frozen : Bool)
  | unit (parts : List (UnitPart × Expression)) (frozen : Bool)
  | batch (commands : List Expression)
  | slot (name : String)
deriving Inhabited

namespace Expression

def word {α : Type} [Keyword α] (a : α) : Expression := .literal (.keyword (Keyword.word a))

def borderStyle (kind : BorderKind) (thickness : Option Expression) : Expression :=
  .record (.window .borderStyle)
    ([("kind", word kind)] ++ (thickness.map fun t => ("thickness", t)).toList)

def color (components : List Expression) : Expression :=
  .record (.argument .color) (["red", "green", "blue", "alpha"].zip components)

def unitOf (command : Expression) : Expression := .unit [(.command, command)] false

end Expression

abbrev Slots := List (String × Value)

namespace Building

def addPart (index : Nat) : UnitPart × Value → Building Unit
  | (.criterion, criterion) => addCriterion index criterion
  | (.command, command) => addCommand index command

/-- A group of criteria, frozen if asked. -/
def buildGroup (criteria : List Value) (frozen : Bool) : Building Value := do
  match criteria with
  | [] => refuse (.tuple [])
  | first :: rest =>
    let index ← groupOf first rest
    return .builder (.group (← if frozen then freezeGroup index else pure index))

/-- A unit of criteria and sub-commands added in their order, frozen if asked. -/
def buildUnit (parts : List (UnitPart × Value)) (frozen : Bool) : Building Value := do
  let index ← startUnit
  parts.forM (addPart index)
  return .builder (.unit (← if frozen then freezeUnit index else pure index))

def buildBatch (commands : List Value) : Building Value := do
  return .builder (.batch (← batchOf commands))

end Building

namespace Expression

open Building

mutual

/-- The value that an expression describes. -/
def build (slots : Slots) : Expression → Building Value
  | .literal l => return l.value
  | .tuple items => return .tuple (← buildAll slots items)
  | .record form given => do Building.record form (form.complete (← buildFields slots given))
  | .group criteria frozen => do buildGroup (← buildAll slots criteria) frozen
  | .unit parts frozen => do buildUnit (← buildParts slots parts) frozen
  | .batch commands => do buildBatch (← buildAll slots commands)
  | .slot name => return (slots.lookup name).getD .absent

def buildAll (slots : Slots) : List Expression → Building (List Value)
  | [] => return []
  | item :: rest => return (← build slots item) :: (← buildAll slots rest)

def buildFields (slots : Slots) : List (String × Expression) → Building (List (String × Value))
  | [] => return []
  | (name, item) :: rest => return (name, ← build slots item) :: (← buildFields slots rest)

def buildParts (slots : Slots) :
    List (UnitPart × Expression) → Building (List (UnitPart × Value))
  | [] => return []
  | (part, item) :: rest => return (part, ← build slots item) :: (← buildParts slots rest)

end

end Expression

end SwayControl
