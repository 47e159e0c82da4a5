import SwayControl.Builder.Store

/-!
Groups of criteria. A group is never empty; adding puts the new criterion in front of the closing
bracket of its text. A frozen group is not changed any more, and a copy of it can be.
-/

namespace SwayControl

/-- The clause that criteria make, written from the criteria alone. -/
def clauseText (criteria : List Value) : Reading String :=
  (fun written => bracketed (written.map Criterion.render)) <$> criteria.mapM Value.readCriterion

/-- A clause with one more criterion in front of its closing bracket. -/
def extendClause (clause criterion : String) : String :=
  String.ofList clause.toList.dropLast ++ " " ++ criterion ++ "]"

namespace Building

def allocateGroup (group : CriteriaGroup) : Building Nat := do
  let s ← get
  set { s with groups := s.groups ++ [group] }
  return s.groups.length

def group (index : Nat) : Building CriteriaGroup := do
  match (← get).groups[index]? with
  | some group => return group
  | none => refuse (.builder (.group index))

def modifyGroup (index : Nat) (change : CriteriaGroup → CriteriaGroup) : Building Unit :=
  modify fun s => { s with groups := s.groups.modify index change }

def startGroup (first : Value) : Building Nat := do
  let text ← criterionText first
  allocateGroup ⟨[first], bracketed [text], false⟩

/-- Adds a criterion to a group. The criterion is kept before it is written, so one that cannot be
written stays in the group. -/
def addToGroup (index : Nat) (criterion : Value) : Building Unit := do
  if (← group index).frozen then throw (.frozen (.group index))
  modifyGroup index fun g => { g with criteria := g.criteria ++ [criterion] }
  let text ← criterionText criterion
  modifyGroup index fun g => { g with text := extendClause g.text text }

/-- An editable copy of a group. -/
def copyGroup (index : Nat) : Building Nat := do
  allocateGroup { ← group index with frozen := false }

/-- A frozen copy of a group; a frozen group is its own. -/
def freezeGroup (index : Nat) : Building Nat := do
  if (← group index).frozen then
    return index
  else
    let clone ← copyGroup index
    modifyGroup clone fun g => { g with frozen := true }
    return clone

def groupOf (first : Value) (rest : List Value) : Building Nat := do
  let index ← startGroup first
  rest.forM (addToGroup index)
  return index

end Building

end SwayControl
