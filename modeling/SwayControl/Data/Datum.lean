import SwayControl.Number.Decimal
import SwayControl.Text.Quoted

/-!
Data without a fixed shape: what replies hold, what results report, and what configuration files set.
Tables keep their entries in the order in which their keys came.
-/

namespace SwayControl

/-- A value of data. `brokenText` is a text of code points of which some are surrogates, and `moment`
a date or a time of day. -/
inductive Datum where
  | absent
  | flag (on : Bool)
  | int (n : Int)
  | real (x : Binary64)
  | text (s : String)
  | brokenText (points : List Nat)
  | moment (written : String)
  | list (items : List Datum)
  | tuple (items : List Datum)
  | table (entries : List (String × Datum))
deriving Inhabited, Repr

/-- Entries of a table by key. -/
abbrev Entries := List (String × Datum)

namespace Datum

def kind : Datum → String
  | .absent => "NoneType"
  | .flag _ => "bool"
  | .int _ => "int"
  | .real _ => "float"
  | .text _ | .brokenText _ => "str"
  | .moment _ => "datetime"
  | .list _ => "list"
  | .tuple _ => "tuple"
  | .table _ => "dict"

/-- One code point of a shown text. -/
def shownPoint (quote : Char) (point : Nat) : List Char :=
  if h : point.isValidChar then Text.shownChar quote (Char.ofNatAux point h)
  else ['\\', 'u'] ++ Text.hexDigits false 4 point

def shownPoints (points : List Nat) : String :=
  let quote := Text.quoteFor (points.map Char.ofNat)
  String.ofList ([quote] ++ points.flatMap (shownPoint quote) ++ [quote])

/-- A tuple of shown items; one with a single item keeps a comma. -/
def shownItems : List String → String
  | [item] => "(" ++ item ++ ",)"
  | items => "(" ++ ", ".intercalate items ++ ")"

mutual

/-- A value as it is shown inside others. -/
def shown : Datum → String
  | .absent => "None"
  | .flag on => if on then "True" else "False"
  | .int n => toString n
  | .real x => x.shown
  | .text s => Text.quoted s
  | .brokenText points => shownPoints points
  | .moment written => written
  | .list items => "[" ++ ", ".intercalate (shownAll items) ++ "]"
  | .tuple items => shownItems (shownAll items)
  | .table entries => "\x7b" ++ ", ".intercalate (shownEntries entries) ++ "\x7d"

def shownAll : List Datum → List String
  | [] => []
  | item :: rest => shown item :: shownAll rest

def shownEntries : List (String × Datum) → List String
  | [] => []
  | (key, value) :: rest => (Text.quoted key ++ ": " ++ shown value) :: shownEntries rest

end

/-- A value as a text of its own: a text as it is, any other as shown. -/
def written : Datum → String
  | .text s => s
  | value => value.shown

/-- Whether a value counts as true: zero, nothing, and what is empty do not. -/
def truth : Datum → Bool
  | .absent => false
  | .flag on => on
  | .int n => n != 0
  | .real x => !x.same (.zero false)
  | .text s => !s.isEmpty
  | .brokenText points => !points.isEmpty
  | .moment _ => true
  | .list items | .tuple items => !items.isEmpty
  | .table entries => !entries.isEmpty

def field? (key : String) : Datum → Option Datum
  | .table entries => entries.lookup key
  | _ => none

end Datum

/-- Sets the value of a key: an entry with the key keeps its place, a new one comes last. -/
def Entries.put (entries : Entries) (key : String) (value : Datum) : Entries :=
  if entries.any (·.1 == key) then
    entries.map fun entry => if entry.1 == key then (key, value) else entry
  else entries ++ [(key, value)]

/-- The entries of a list of settings of keys, where the last setting of a key counts. -/
def Entries.ofSettings (settings : List (String × Datum)) : Entries :=
  settings.foldl (fun entries setting => Entries.put entries setting.1 setting.2) []

end SwayControl
