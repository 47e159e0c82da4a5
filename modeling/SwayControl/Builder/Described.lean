import SwayControl.Builder.Script

/-!
Values as a caller sees them from outside. Plain values are told as they are, tuples item by item, and
all others by their kind and the text they stand for.
-/

namespace SwayControl

/-- A value as a caller sees it. -/
inductive Described where
  | absent
  | flag (on : Bool)
  | int (n : Int)
  | text (s : String)
  | items (list : List Described)
  | object (kind : String) (text : Reading String)

/-- What messages call the kind of a value that is told by its kind. -/
def Value.kind : Value → String
  | .real _ => "float"
  | .keyword w => w.family
  | .record form _ => form.name
  | .builder ref => ref.kind
  | _ => ""

/-- The text that a value stands for. -/
def Value.standsFor (texts : Ref → String) : Value → Reading String
  | .builder ref => .ok (texts ref)
  | value@(.record (.criterion _) _) => Criterion.render <$> value.readCriterion
  | value => value.commandText texts

mutual

/-- A value as a caller sees it, given the text each builder holds. -/
def Value.described (texts : Ref → String) : Value → Described
  | .absent => .absent
  | .flag on => .flag on
  | .int n => .int n
  | .text s => .text s
  | .tuple items => .items (Value.describedAll texts items)
  | .real x => .object (Value.real x).kind ((Value.real x).standsFor texts)
  | .keyword w => .object (Value.keyword w).kind ((Value.keyword w).standsFor texts)
  | .record form fields =>
    .object form.name ((Value.record form fields).standsFor texts)
  | .builder ref => .object ref.kind (.ok (texts ref))

def Value.describedAll (texts : Ref → String) : List Value → List Described
  | [] => []
  | value :: rest => Value.described texts value :: Value.describedAll texts rest

end

/-- What can be observed of a value: all that a builder holds, or the value as described. -/
inductive Observation where
  | group (text : String) (frozen : Bool) (length : Nat) (written : Reading String)
  | unit (text : String) (frozen : Bool) (written : Reading String) (count : Nat)
      (criteria : Option String)
  | batch (text : String) (written : Reading String) (commands : List Described)
  | other (value : Described)

def Store.observe (s : Store) (value : Value) : Observation :=
  match value with
  | .builder (.group index) =>
    match s.groups[index]? with
    | some g => .group g.text g.frozen g.criteria.length (clauseText g.criteria)
    | none => .other (value.described s.texts)
  | .builder (.unit index) =>
    match s.units[index]? with
    | some u =>
      .unit u.text u.frozen (unitText s.texts u.clause u.commands) u.commands.length
        (u.clause.map fun g => s.texts (.group g))
    | none => .other (value.described s.texts)
  | .builder (.batch index) =>
    match s.batches[index]? with
    | some b => .batch b.text (batchText s.texts b.commands) (Value.describedAll s.texts b.commands)
    | none => .other (value.described s.texts)
  | value => .other (value.described s.texts)

end SwayControl
