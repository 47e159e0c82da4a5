import SwayControl.Value.Reading

/-!
The store of builders. A builder keeps the values it was given and, beside them, the text they make;
building extends that text and writes it anew only where it cannot be extended. What an operation has
changed before it fails stays changed.
-/

namespace SwayControl

/-- Criteria that are joined in one clause. -/
structure CriteriaGroup where
  criteria : List Value
  text : String
  frozen : Bool
deriving Inhabited

/-- Sub-commands that share a clause, which is a group of its own. -/
structure TargetedUnit where
  clause : Option Nat
  commands : List Value
  text : String
  frozen : Bool
deriving Inhabited

/-- Commands that are sent together. -/
structure Batch where
  commands : List Value
  text : String
deriving Inhabited

/-- All builders by their index, and for each text that was written anew because a criterion came late
the number of sub-commands it had, in order. -/
structure Store where
  groups : List CriteriaGroup
  units : List TargetedUnit
  batches : List Batch
  rebuilds : List Nat
deriving Inhabited

def Store.empty : Store := ⟨[], [], [], []⟩

def Store.texts (s : Store) : Ref → String
  | .group index => (s.groups[index]?).elim "" CriteriaGroup.text
  | .unit index => (s.units[index]?).elim "" TargetedUnit.text
  | .batch index => (s.batches[index]?).elim "" Batch.text

inductive ColorChannel where
  | red | green | blue | alpha
deriving DecidableEq, Repr

def ColorChannel.name : ColorChannel → String
  | .red => "red"
  | .green => "green"
  | .blue => "blue"
  | .alpha => "alpha"

inductive Fault where
  | refused (refusal : Refusal)
  | colorOutOfRange (channel : ColorChannel) (amount : Int)
  | borderNotAllowedAsDefault (kind : BorderKind)
  | noOutputs
  | frozen (ref : Ref)
  | notHashable (ref : Ref)
  | indexOutOfRange

def Fault.message (texts : Ref → String) : Fault → String
  | .refused refusal => refusal.message texts
  | .colorOutOfRange channel amount =>
    "Color " ++ channel.name ++ " component must be within 0..255, got " ++ toString amount
  | .borderNotAllowedAsDefault kind =>
    "Default border style must be none, normal or pixel, got " ++ Keyword.text kind
  | .noOutputs => "WorkspaceOutputs requires at least one output"
  | .frozen (.group index) => "cannot add to frozen " ++ (Value.builder (.group index)).shown texts
  | .frozen ref =>
    "cannot modify frozen " ++ (Value.builder ref).shown texts ++ "; call copy() first"
  | .notHashable ref => "unhashable type: '" ++ ref.kind ++ "' (call freeze() first)"
  | .indexOutOfRange => "tuple index out of range"

/-- Operations on builders. A fault leaves the store as it was when the fault came. -/
abbrev Building := EStateM Fault Store

namespace Building

/-- A reading as an operation that changes nothing. -/
def ofReading {α : Type} : Reading α → Building α
  | .ok a => pure a
  | .error refusal => throw (.refused refusal)

def criterionText (criterion : Value) : Building String :=
  ofReading (Criterion.render <$> criterion.readCriterion)

def subCommandText (command : Value) : Building String :=
  ofReading (SubCommand.render <$> command.readSubCommand)

/-- The text of any command, as the store holds it now. -/
def commandText (command : Value) : Building String := do
  ofReading (command.commandText (← get).texts)

/-- Refuses a value that is no builder of the kind an operation is for. -/
def refuse {α : Type} (value : Value) : Building α := throw (.refused ⟨.field, value⟩)

end Building

end SwayControl
