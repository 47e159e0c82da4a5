import SwayControl.Builder.Targeted

/-!
Making records. Colours, default borders and lists of outputs are checked, and bindings and rules keep
frozen copies of the criteria and commands that they are made with.
-/

namespace SwayControl

/-- Checks one component of a colour, which may be absent. -/
def checkComponent (channel : ColorChannel) : Value → Except Fault Unit
  | .int n => if 0 ≤ n && n ≤ 255 then .ok () else .error (.colorOutOfRange channel n)
  | _ => .ok ()

def checkColor (red green blue alpha : Value) : Except Fault Unit := do
  checkComponent .red red
  checkComponent .green green
  checkComponent .blue blue
  checkComponent .alpha alpha

def checkDefaultBorder (style : Value) : Except Fault Unit :=
  match style.readBorderStyle with
  | .ok s => if s.kind.allowedAsDefault then .ok () else .error (.borderNotAllowedAsDefault s.kind)
  | .error refusal => .error (.refused refusal)

def checkOutputs : Value → Except Fault Unit
  | .tuple [] => .error .noOutputs
  | _ => .ok ()

/-- The checks that a record of some form must pass. -/
def checkRecord (form : Form) (fields : List Value) : Except Fault Unit :=
  match form, fields with
  | .argument .color, [red, green, blue, alpha] => checkColor red green blue alpha
  | .topLevel .defaultBorder, [style] => checkDefaultBorder style
  | .topLevel .defaultFloatingBorder, [style] => checkDefaultBorder style
  | .topLevel .workspaceOutputs, [_, outputs] => checkOutputs outputs
  | _, _ => .ok ()

namespace Building

/-- What a rule keeps of its criteria. -/
def keptCriteria : Value → Building Value
  | .builder (.group index) => return .builder (.group (← freezeGroup index))
  | value => refuse value

/-- The fields that a record of some form keeps. -/
def keptFields (form : Form) (fields : List Value) : Building (List Value) :=
  match form, fields with
  | .topLevel .assignToWorkspace, [criteria, workspace] =>
    return [← keptCriteria criteria, workspace]
  | .topLevel .assignToOutput, [criteria, output] => return [← keptCriteria criteria, output]
  | .topLevel .noFocus, [criteria] => return [← keptCriteria criteria]
  | .topLevel .forWindow, [criteria, command] =>
    return [← keptCriteria criteria, ← entry command]
  | .topLevel .bindsym, [key, command, flags] => return [key, ← entry command, flags]
  | .topLevel .bindcode, [key, command, flags] => return [key, ← entry command, flags]
  | .topLevel .bindswitch, [switch, state, command, flags] =>
    return [switch, state, ← entry command, flags]
  | _, fields => return fields

def record (form : Form) (fields : List Value) : Building Value := do
  match checkRecord form fields with
  | .error fault => throw fault
  | .ok () => return .record form (← keptFields form fields)

end Building

/-- All fields of a form, those that are not given with the value they then take. -/
def Form.complete (form : Form) (given : List (String × Value)) : List Value :=
  form.signature.fields.map fun field =>
    (given.lookup field.name).getD (field.fallback.getD .absent)

end SwayControl
