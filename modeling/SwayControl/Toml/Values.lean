import SwayControl.Toml.Numbers
import SwayControl.Toml.Strings

/-!
Values of a configuration text. Lists go over lines and may hold comments; inline tables stay on one
line, and what was set whole in one is not opened again by a dotted key.
-/

namespace SwayControl.Toml

/-- Changes the entries of the table at the end of a path below some entries. Tables on the path that
are missing are made. A list on the path stands for its last item where that is asked for. -/
def changeNest (throughLists : Bool) (change : Entries → Except Reason Entries) :
    Key → Entries → Except Reason Entries
  | [], entries => change entries
  | part :: path, entries => do
    match entries.lookup part with
    | none => return Entries.put entries part (.table (← changeNest throughLists change path []))
    | some (.table inner) =>
      return Entries.put entries part (.table (← changeNest throughLists change path inner))
    | some (.list items) =>
      match throughLists, items.getLast? with
      | true, some (.table inner) =>
        let last ← changeNest throughLists change path inner
        return Entries.put entries part (.list (items.dropLast ++ [.table last]))
      | _, _ => .error .overwrite
    | some _ => .error .overwrite

/-- Sets a value that was not set before. -/
def setNew (name : String) (value : Datum) (twice : Reason) (entries : Entries) :
    Except Reason Entries :=
  if (entries.lookup name).isSome then .error twice else .ok (Entries.put entries name value)

def isNest : Datum → Bool
  | .list _ | .table _ => true
  | _ => false

/-- Whether one of some keys is the beginning of a key. -/
def covers (keys : List Key) (key : Key) : Bool :=
  !key.isEmpty && keys.any fun earlier => !earlier.isEmpty && earlier.isPrefixOf key

/-- A reason found while working on data, at a place of the text. -/
def atPlace {α : Type} (p : Place) : Except Reason α → Attempt α
  | .ok a => .ok a
  | .error reason => p.stop reason

/-- The place after gaps, line breaks and comments; at most `fuel` comments are passed. -/
def skipFiller : Nat → Place → Attempt Place
  | 0, p => .ok p
  | fuel + 1, p => do
    let gap := p.skip isGapOrBreak
    let after ← skipComment gap
    -- Without a gap and without a comment the filler has come to its end.
    if after.position == p.position then return after else skipFiller fuel after

def skipFillers (p : Place) : Attempt Place := skipFiller (p.rest.length + 1) p

/-- What an inline table holds so far, and the keys that were set whole. -/
structure Inline where
  entries : Entries
  closed : List Key

/-- The entries of an inline table with one more value. -/
def Inline.set (done : Inline) (key : Key) (value : Datum) : Except Reason Entries :=
  if covers done.closed key then .error (.immutable key)
  else
    let name := key.getLastD ""
    changeNest false (setNew name value (.duplicateKey name)) key.dropLast done.entries

mutual

def readValue : Nat → Place → Attempt (Datum × Place)
  | 0, p => p.stop .value
  | fuel + 1, p =>
    let text : Attempt (List Char × Place) → Attempt (Datum × Place) :=
      fun read => read.map fun (chars, after) => (.text (String.ofList chars), after)
    match p.next? with
    | some '"' => text (if p.sees "\"\"\"" then readBasicLines p else readBasicLine p)
    | some '\'' => text (if p.sees "'''" then readLiteralLines p else readLiteralLine p)
    | some '[' => do
      let first ← skipFillers (p.advance 1)
      if first.sees "]" then return (.list [], first.advance 1) else readItems fuel [] first
    | some '{' =>
      let first := (p.advance 1).skip isGap
      if first.sees "\x7d" then .ok (.table [], first.advance 1) else readInline fuel ⟨[], []⟩ first
    | _ =>
      if p.sees "true" then .ok (.flag true, p.advance 4)
      else if p.sees "false" then .ok (.flag false, p.advance 5)
      else do
        -- A moment begins as a number does, so it is tried first.
        match ← readMoment? p with
        | some (value, after) => return (value, after)
        | none => readNumber p

/-- The items of a list from here on, after those that are done, last one first. -/
def readItems : Nat → List Datum → Place → Attempt (Datum × Place)
  | 0, _, p => p.stop .unclosedArray
  | fuel + 1, done, p => do
    let (item, after) ← readValue fuel p
    let after ← skipFillers after
    if after.sees "]" then return (.list (item :: done).reverse, after.advance 1)
    else if after.sees "," then
      let next ← skipFillers (after.advance 1)
      -- A comma may stand behind the last item.
      if next.sees "]" then return (.list (item :: done).reverse, next.advance 1)
      else readItems fuel (item :: done) next
    else after.stop .unclosedArray

/-- The entries of an inline table from here on, after those that are done. -/
def readInline : Nat → Inline → Place → Attempt (Datum × Place)
  | 0, _, p => p.stop .unclosedInlineTable
  | fuel + 1, done, p => do
    let (key, value, after) ← readPair fuel p
    let entries ← atPlace after (done.set key value)
    let mark := after.skip isGap
    if mark.sees "\x7d" then return (.table entries, mark.advance 1)
    else if mark.sees "," then
      let closed := if isNest value then key :: done.closed else done.closed
      readInline fuel ⟨entries, closed⟩ ((mark.advance 1).skip isGap)
    else mark.stop .unclosedInlineTable

def readPair : Nat → Place → Attempt (Key × Datum × Place)
  | 0, p => p.stop .value
  | fuel + 1, p => do
    let (key, after) ← readKey p
    if !after.sees "=" then after.stop .equals
    else
      let (value, last) ← readValue fuel ((after.advance 1).skip isGap)
      return (key, value, last)

end
end SwayControl.Toml
