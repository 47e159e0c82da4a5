import SwayControl.Toml.Values

/-!
Configuration texts, statement by statement. A table is declared once, lists of tables grow by
declarations of their own, and dotted keys make the tables on their way, which no later declaration
opens again.
-/

namespace SwayControl.Toml

/-- What a text set so far, and which keys it may not declare or open any more. Those on the way of
dotted keys are kept apart until the next declaration. -/
structure Document where
  entries : Entries
  header : Key
  declared : List Key
  closed : List Key
  pending : List Key

namespace Document

def empty : Document := ⟨[], [], [], [], []⟩

/-- Counts the keys on the way of dotted keys as declared. -/
def settle (d : Document) : Document := { d with declared := d.pending ++ d.declared, pending := [] }

def declareTable (d : Document) (key : Key) : Except Reason Document :=
  if d.declared.contains key || covers d.closed key then .error (.declaredTwice key)
  else do
    let entries ← changeNest true .ok key d.entries
    return { d with entries, header := key, declared := key :: d.declared }

/-- Appends an empty table to the list of a name. -/
def appendTable (name : String) (entries : Entries) : Except Reason Entries :=
  match entries.lookup name with
  | none => .ok (Entries.put entries name (.list [.table []]))
  | some (.list items) => .ok (Entries.put entries name (.list (items ++ [.table []])))
  | some _ => .error .overwrite

/-- Declares the next table of a list. What its forerunner declared can be declared anew. -/
def declareItem (d : Document) (key : Key) : Except Reason Document :=
  if covers d.closed key then .error (.immutable key)
  else do
    let entries ← changeNest true (appendTable (key.getLastD "")) key.dropLast d.entries
    let keep (other : Key) : Bool := !key.isPrefixOf other
    return { d with
      entries, header := key
      declared := key :: d.declared.filter keep
      closed := d.closed.filter keep }

/-- The keys of the tables on the way of a dotted key, under the table that is open. -/
def wayOf (d : Document) (key : Key) : List Key :=
  (List.range (key.length - 1)).map fun count => d.header ++ key.take (count + 1)

/-- Sets the value of a key in the table that is open. -/
def set (d : Document) (key : Key) (value : Datum) : Except Reason Document :=
  let whole := d.header ++ key
  let way := d.wayOf key
  -- A dotted key does not lead through a table that was declared before.
  match way.find? d.declared.contains with
  | some declared => .error (.redefined declared)
  | none =>
    if covers d.closed whole.dropLast then .error (.immutable whole.dropLast)
    else do
      let entries ← changeNest true (setNew (key.getLastD "") value .overwrite) whole.dropLast
        d.entries
      let closed := if isNest value then whole :: d.closed else d.closed
      return { d with entries, closed, pending := way ++ d.pending }

end Document

/-- A declaration of a table or of the next table of a list; its bracket comes next. -/
def readDeclaration (d : Document) (p : Place) : Attempt (Document × Place) := do
  let d := d.settle
  if p.sees "[[" then
    let (key, after) ← readKey ((p.advance 2).skip isGap)
    let d ← atPlace after (d.declareItem key)
    if after.sees "]]" then return (d, after.advance 2) else after.stop .arrayTableEnd
  else
    let (key, after) ← readKey ((p.advance 1).skip isGap)
    let d ← atPlace after (d.declareTable key)
    if after.sees "]" then return (d, after.advance 1) else after.stop .tableEnd

def readSetting (d : Document) (p : Place) : Attempt (Document × Place) := do
  let (key, value, after) ← readPair (2 * p.rest.length + 4) p
  return (← atPlace after (d.set key value), after)

/-- One statement, or nothing where a line is empty or holds a comment only. -/
def readStatement (d : Document) (p : Place) : Attempt (Document × Place) :=
  match p.next? with
  | some c =>
    if isKeyStart c then readSetting d p
    else if c == '[' then readDeclaration d p
    else if c == '#' then .ok (d, p)
    else p.stop .statement
  | none => .ok (d, p)

/-- The statements from here on; at most `fuel` lines are read. -/
def readStatements : Nat → Document → Place → Attempt Document
  | 0, d, _ => .ok d
  | fuel + 1, d, p => do
    let line := p.skip isGap
    if line.rest.isEmpty then return d
    else if line.sees "\n" then readStatements fuel d (line.advance 1)
    else
      let (d, after) ← readStatement d line
      let last ← skipComment (after.skip isGap)
      if last.rest.isEmpty then return d
      else if last.sees "\n" then readStatements fuel d (last.advance 1)
      else last.stop .lineEnd

/-- What is wrong with a text, and the line and column of it unless it is at the end. -/
structure Fault where
  reason : Reason
  place : Option (Nat × Nat)
deriving DecidableEq, Repr

def Fault.message (fault : Fault) : String :=
  let place := match fault.place with
    | some (line, column) => "line " ++ toString line ++ ", column " ++ toString column
    | none => "end of document"
  fault.reason.text ++ " (at " ++ place ++ ")"

/-- What is wrong at a position of a text. -/
def faultAt (text : List Char) (reason : Reason) (position : Nat) : Fault :=
  if text.length ≤ position then ⟨reason, none⟩
  else
    let before := text.take position
    let line := (before.filter (· == '\n')).length + 1
    ⟨reason, some (line, (before.reverse.takeWhile (· != '\n')).length + 1)⟩

/-- The entries that a text sets. -/
def read (text : List Char) : Except Fault Entries :=
  match readStatements (text.length + 1) .empty ⟨0, text⟩ with
  | .ok d => .ok d.entries
  | .error (reason, position) => .error (faultAt text reason position)

end SwayControl.Toml
