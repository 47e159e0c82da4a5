import SwayControl.Builder.Expression
import SwayControl.Builder.Sameness

/-!
Scripts: steps on named slots. Slots hold references, so two names can stand for one builder. A step
that fails does not end the script, and what it changed before it failed stays changed.
-/

namespace SwayControl

/-- An operation on the value of a slot. -/
inductive Operation where
  | add (criterion : Expression)
  | addCriterion (criterion : Expression)
  | addCommand (command : Expression)
  | append (command : Expression)
  | copy | freeze
  | render | encode
  | text | criteria | commands | frozen
  | length | written | shown | truth | entries | hash

/-- One step into a value: a field by name, or an item of a tuple by position, counted from the end
where it is negative. -/
inductive PathStep where
  | field (name : String)
  | item (index : Int)
deriving DecidableEq, Repr

inductive Step where
  | assign (into : String) (value : Expression)
  | coerce (into : String) (value : Expression)
  | call (on : String) (operation : Operation) (into : Option String)
  | walk (on into : String) (path : List PathStep)
  | compare (a b : Expression)
  | distinct (values : List Expression)
  | observe (on : String)

/-- What a step answers: a value, the bytes of a text, or a list of values. -/
inductive Answer where
  | value (v : Value)
  | bytes (content : ByteArray)
deriving Inhabited

namespace Building

def textOf : Value → Building Value
  | .builder ref => return .text ((← get).texts ref)
  | .record .raw [line] => return line
  | value => refuse value

/-- The criteria of a group, or the live group of a unit. -/
def criteriaOf : Value → Building Value
  | .builder (.group index) => return .tuple (← group index).criteria
  | .builder (.unit index) =>
    return (← unit index).clause.elim .absent fun g => .builder (.group g)
  | value => refuse value

def commandsOf : Value → Building Value
  | .builder (.unit index) => return .tuple (← unit index).commands
  | .builder (.batch index) => return .tuple (← batch index).commands
  | value => refuse value

def itemsOf : Value → Building (List Value)
  | .tuple items => return items
  | value => refuse value

def frozenOf : Value → Building Bool
  | .builder (.group index) => return (← group index).frozen
  | .builder (.unit index) => return (← unit index).frozen
  | value => refuse value

/-- The number of entries of a value. -/
def lengthOf : Value → Building Nat
  | .builder (.group index) => return (← group index).criteria.length
  | .builder (.batch index) => return (← batch index).commands.length
  | .tuple items => return items.length
  | .text s => return s.length
  | value => refuse value

/-- Whether a value counts as true: an empty batch, text or tuple does not, nor do zero and nothing. -/
def truthOf : Value → Building Bool
  | .builder (.batch index) => return !(← batch index).commands.isEmpty
  | .tuple items => return !items.isEmpty
  | .text s => return !s.isEmpty
  | .keyword w => return !w.text.isEmpty
  | .absent => return false
  | .flag on => return on
  | .int n => return n != 0
  -- A zero of either sign is false; what is not a number equals nothing, so it is true.
  | .real x => return !x.same (.zero false)
  | _ => return true

/-- A value as a text of its own: a text as it is, a builder as its text, any other as shown. -/
def writtenOf : Value → Building String
  | .text s => return s
  | .keyword w => return w.text
  | .builder ref => return (← get).texts ref
  | value => return value.shown (← get).texts

def copyOf : Value → Building Value
  | .builder (.group index) => return .builder (.group (← copyGroup index))
  | .builder (.unit index) => return .builder (.unit (← copyUnit index))
  | value => refuse value

def freezeOf : Value → Building Value
  | .builder (.group index) => return .builder (.group (← freezeGroup index))
  | .builder (.unit index) => return .builder (.unit (← freezeUnit index))
  | value => refuse value

/-- The text of a builder written from what it holds. -/
def writtenBuilder : Value → Building String
  | .builder (.unit index) => writtenUnit index
  | .builder (.batch index) => writtenBatch index
  | value => refuse value

/-- An item of a list by position, counted from the end where the position is negative. -/
def itemAt (items : List Value) (index : Int) : Building Value :=
  let position := if index < 0 then index + items.length else index
  match if position < 0 then none else items[position.toNat]? with
  | some item => return item
  | none => throw .indexOutOfRange

def property (value : Value) (name : String) : Building Value :=
  match value, name with
  | .record form fields, name =>
    match (form.fieldNames.zip fields).lookup name with
    | some field => return field
    | none => refuse value
  | value, "text" => textOf value
  | value, "criteria" => criteriaOf value
  | value, "commands" => commandsOf value
  | value, "frozen" => return .flag (← frozenOf value)
  | value, _ => refuse value

def walk : Value → List PathStep → Building Value
  | value, [] => return value
  | value, .field name :: path => do walk (← property value name) path
  | .tuple items, .item index :: path => do walk (← itemAt items index) path
  | value, .item _ :: _ => refuse value

def perform (slots : Slots) (value : Value) : Operation → Building Answer
  | .add criterion => do
    match value with
    | .builder (.group index) => addToGroup index (← criterion.build slots)
    | _ => refuse value
    return .value value
  | .addCriterion criterion => do
    match value with
    | .builder (.unit index) => addCriterion index (← criterion.build slots)
    | _ => refuse value
    return .value value
  | .addCommand command => do
    match value with
    | .builder (.unit index) => addCommand index (← command.build slots)
    | _ => refuse value
    return .value value
  | .append command => do
    match value with
    | .builder (.batch index) => append index (← command.build slots)
    | _ => refuse value
    return .value value
  | .copy => .value <$> copyOf value
  | .freeze => .value <$> freezeOf value
  | .render => (.value ∘ .text) <$> writtenBuilder value
  | .encode => do
    match ← textOf value with
    | .text s => return .bytes s.toUTF8
    | other => refuse other
  | .text => .value <$> textOf value
  | .criteria => .value <$> property value "criteria"
  | .commands => .value <$> property value "commands"
  | .frozen => (.value ∘ .flag) <$> frozenOf value
  | .length => return .value (.int (← lengthOf value))
  | .written => (.value ∘ .text) <$> writtenOf value
  | .shown => return .value (.text (value.shown (← get).texts))
  | .truth => (.value ∘ .flag) <$> truthOf value
  | .entries => .value <$> commandsOf value
  | .hash => do
    checkSettled value
    return .value (.flag true)

end Building

/-- What a script works on: the store and the slots. -/
structure Session where
  store : Store
  slots : Slots

def Session.start : Session := ⟨.empty, []⟩

namespace Session

/-- The value of a slot, which is absent where nothing was put into it. -/
def value (session : Session) (name : String) : Value := (session.slots.lookup name).getD .absent

def put (session : Session) (name : String) (value : Value) : Session :=
  { session with slots := (name, value) :: session.slots.filter fun slot => slot.1 != name }

/-- The operation that a step performs on the store. -/
def action (session : Session) : Step → Building Answer
  | .assign _ value => .value <$> value.build session.slots
  | .coerce _ value => do return .value (← Building.entry (← value.build session.slots))
  | .call on operation _ => Building.perform session.slots (session.value on) operation
  | .walk on _ path => .value <$> Building.walk (session.value on) path
  -- Both are built before they are compared, so the first stays built where the second cannot be.
  | .compare a b => do
    let a ← a.build session.slots
    let b ← b.build session.slots
    return .value (.flag ((← get).same a b))
  | .distinct values => do
    let values ← values.mapM (·.build session.slots)
    return .value (.int (← Building.countDistinct values))
  | .observe _ => return .value .absent

/-- The slot that takes the answer of a step. -/
def target : Step → Option String
  | .assign into _ => some into
  | .coerce into _ => some into
  | .call _ _ into => into
  | .walk _ into _ => some into
  | _ => none

/-- Runs one step: its answer or why it failed, and the session after it. -/
def run (session : Session) (step : Step) : Except Fault Answer × Session :=
  match (session.action step).run session.store with
  | .error fault store => (.error fault, { session with store })
  | .ok answer store =>
    let after := { session with store }
    match answer, target step with
    | .value v, some name => (.ok answer, after.put name v)
    | _, _ => (.ok answer, after)

end Session

end SwayControl
