import SwayControl.Builder.Store

/-!
When values are the same, and which values can be told apart by content for good. Records are the same
if they are of one form with the same fields, keywords and texts if they have the same text, numbers and
truth values if they are equal as numbers; groups and units by what they hold, batches only if they are
one. What is held by a record, a group or a unit is also the same if it is one and the same, which
matters where it is not a number. Editable groups and units have no lasting content.
-/

namespace SwayControl

/-- A value as a number, where it is one; a truth value counts as zero or one. -/
def Value.number? : Value → Option Number
  | .flag on => some (.int (if on then 1 else 0))
  | .int n => some (.int n)
  | .real x => some (.real x)
  | _ => none

def Value.label? : Value → Option String
  | .text s => some s
  | .keyword w => some w.text
  | _ => none

/-- Whether two values that hold no others are the same. -/
def Value.sameAtom (a b : Value) : Bool :=
  match a.number?, b.number?, a.label?, b.label? with
  | some m, some n, _, _ => m.same n
  | _, _, some s, some t => s == t
  | _, _, _, _ =>
    match a, b with
    | .absent, .absent => true
    | _, _ => false

/-- Whether two values are one that is not a number. -/
def Value.sameNan : Value → Value → Bool
  | .real (.nan which), .real (.nan other) => which == other
  | _, _ => false

mutual

/-- Whether two values are the same, given which builders are. -/
def Value.same (builders : Ref → Ref → Bool) : Value → Value → Bool
  | .tuple items, .tuple others => Value.sameAll builders items others
  | .record form fields, .record other others =>
    form == other && Value.sameAll builders fields others
  | .builder a, .builder b => builders a b
  | a, b => a.sameAtom b

def Value.sameAll (builders : Ref → Ref → Bool) : List Value → List Value → Bool
  | [], [] => true
  | a :: items, b :: others =>
    (a.sameNan b || Value.same builders a b) && Value.sameAll builders items others
  | _, _ => false

end

def CriteriaGroup.same (builders : Ref → Ref → Bool) (a b : CriteriaGroup) : Bool :=
  Value.sameAll builders a.criteria b.criteria

def TargetedUnit.same (builders : Ref → Ref → Bool) (a b : TargetedUnit) : Bool :=
  (match a.clause, b.clause with
    | none, none => true
    | some g, some h => builders (.group g) (.group h)
    | _, _ => false) &&
  Value.sameAll builders a.commands b.commands

namespace Store

/-- Whether two builders are the same, looking at most `depth` builders deep. -/
def sameBuilders (s : Store) : Nat → Ref → Ref → Bool
  | 0, a, b => a == b
  | depth + 1, a, b =>
    a == b ||
    match a, b with
    | .group i, .group j =>
      match s.groups[i]?, s.groups[j]? with
      | some g, some h => g.same (s.sameBuilders depth) h
      | _, _ => false
    | .unit i, .unit j =>
      match s.units[i]?, s.units[j]? with
      | some u, some v => u.same (s.sameBuilders depth) v
      | _, _ => false
    | _, _ => false

/-- The number of builders, which bounds how deep they can be nested. -/
def depth (s : Store) : Nat := s.groups.length + s.units.length + s.batches.length

def same (s : Store) (a b : Value) : Bool := a.same (s.sameBuilders s.depth) b

end Store

mutual

/-- The first builder of a value that has no lasting content, given that of each builder. -/
def Value.unsettled? (builders : Ref → Option Ref) : Value → Option Ref
  | .tuple items => Value.unsettledIn? builders items
  | .record _ fields => Value.unsettledIn? builders fields
  | .builder ref => builders ref
  | _ => none

def Value.unsettledIn? (builders : Ref → Option Ref) : List Value → Option Ref
  | [] => none
  | value :: rest =>
    (Value.unsettled? builders value).or (Value.unsettledIn? builders rest)

end

namespace Store

/-- The first editable builder that a builder is or holds, looking at most `depth` builders deep. -/
def unsettledBuilder? (s : Store) : Nat → Ref → Option Ref
  | 0, _ => none
  | depth + 1, ref =>
    match ref with
    | .group index =>
      match s.groups[index]? with
      | some g =>
        if g.frozen then Value.unsettledIn? (s.unsettledBuilder? depth) g.criteria else some ref
      | none => none
    | .unit index =>
      match s.units[index]? with
      | some u =>
        if u.frozen then
          (u.clause.bind fun g => s.unsettledBuilder? depth (.group g)).or
            (Value.unsettledIn? (s.unsettledBuilder? depth) u.commands)
        else some ref
      | none => none
    | .batch _ => none

def unsettled? (s : Store) (value : Value) : Option Ref :=
  value.unsettled? (s.unsettledBuilder? s.depth)

/-- Values without those that are the same as an earlier one. -/
def distinct (s : Store) : List Value → List Value
  | [] => []
  | value :: rest => value :: (s.distinct rest).filter fun other =>
    !(value.sameNan other || s.same value other)

end Store

namespace Building

/-- Checks that a value has lasting content. -/
def checkSettled (value : Value) : Building Unit := do
  match (← get).unsettled? value with
  | some ref => throw (.notHashable ref)
  | none => return ()

def countDistinct (values : List Value) : Building Nat := do
  values.forM checkSettled
  return ((← get).distinct values).length

end Building

end SwayControl
