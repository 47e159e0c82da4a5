import SwayControl.Grammar.Argument
import SwayControl.Text.Quoted
import SwayControl.Value.Signature

/-!
Values as messages show them: texts between quotes, keywords with their family and name, records with
all their fields, builders by the text they hold at the time.
-/

namespace SwayControl

def shownRecord (form : Form) (fields : List String) : String :=
  form.name ++ "(" ++
    ", ".intercalate (List.zipWith (fun name field => name ++ "=" ++ field) form.fieldNames fields) ++ ")"

/-- A tuple; one with a single item keeps a comma. -/
def shownTuple : List String → String
  | [item] => "(" ++ item ++ ",)"
  | items => "(" ++ ", ".intercalate items ++ ")"

def Word.shown (w : Word) : String :=
  "<" ++ w.family ++ "." ++ w.member ++ ": " ++ Text.quoted w.text ++ ">"

def Ref.kind : Ref → String
  | .group _ => "CriteriaGroup"
  | .unit _ => "TargetedCommand"
  | .batch _ => "CommandList"

mutual

/-- A value as messages show it, given the text each builder holds. -/
def Value.shown (texts : Ref → String) : Value → String
  | .absent => "None"
  | .flag on => flagText on
  | .int n => toString n
  | .real x => x.shown
  | .text s => Text.quoted s
  | .keyword w => w.shown
  | .tuple items => shownTuple (Value.shownAll texts items)
  | .record form fields => shownRecord form (Value.shownAll texts fields)
  | .builder ref => ref.kind ++ "(" ++ Text.quoted (texts ref) ++ ")"

def Value.shownAll (texts : Ref → String) : List Value → List String
  | [] => []
  | value :: rest => Value.shown texts value :: Value.shownAll texts rest

end

end SwayControl
