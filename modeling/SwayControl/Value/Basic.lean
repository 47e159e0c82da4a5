import SwayControl.Grammar.Keyword
import SwayControl.Number.Binary64
import SwayControl.Value.Form

/-!
Values as callers hand them over, before anything is known about their kind. Builders are named by
reference, because they change; all else is held as it is.
-/

namespace SwayControl

/-- A builder of a store: a group of criteria, a targeted unit, or a batch of commands. -/
inductive Ref where
  | group (index : Nat)
  | unit (index : Nat)
  | batch (index : Nat)
deriving DecidableEq, Repr

/-- A value of any kind. A record lists its fields in the order of its form. -/
inductive Value where
  | absent
  | flag (on : Bool)
  | int (n : Int)
  | real (x : Binary64)
  | text (s : String)
  | keyword (w : Word)
  | tuple (items : List Value)
  | record (form : Form) (fields : List Value)
  | builder (ref : Ref)
deriving Repr, Inhabited

namespace Value

def word {α : Type} [Keyword α] (a : α) : Value := .keyword (Keyword.word a)

/-- Command text that is sent as it is. -/
def raw (text : Value) : Value := .record .raw [text]

end Value

end SwayControl
