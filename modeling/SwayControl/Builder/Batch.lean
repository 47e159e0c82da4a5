import SwayControl.Builder.Targeted

/-!
Batches: commands that are sent together, with semicolons between them. A batch keeps entries, so later
changes to a unit that was appended do not reach it.
-/

namespace SwayControl

/-- What stands between the commands of a batch. -/
def commandSeparator : String := ";"

/-- The text of a batch written from its entries. -/
def batchText (texts : Ref → String) (commands : List Value) : Reading String :=
  commandSeparator.intercalate <$> commands.mapM (Value.commandText texts)

namespace Building

def startBatch : Building Nat := do
  let s ← get
  set { s with batches := s.batches ++ [(⟨[], ""⟩ : Batch)] }
  return s.batches.length

def batch (index : Nat) : Building Batch := do
  match (← get).batches[index]? with
  | some batch => return batch
  | none => refuse (.builder (.batch index))

def modifyBatch (index : Nat) (change : Batch → Batch) : Building Unit :=
  modify fun s => { s with batches := s.batches.modify index change }

def writtenBatch (index : Nat) : Building String := do
  ofReading (batchText (← get).texts (← batch index).commands)

/-- Appends a command to a batch. The separator is written first, so it stays where the command cannot
be written. -/
def append (index : Nat) (command : Value) : Building Unit := do
  -- A command of which no entry can be made leaves the text of the batch alone.
  let kept ← entry command
  if !(← batch index).commands.isEmpty then
    modifyBatch index fun b => { b with text := b.text ++ commandSeparator }
  let text ← commandText kept
  modifyBatch index fun b => { b with text := b.text ++ text, commands := b.commands ++ [kept] }

def batchOf (commands : List Value) : Building Nat := do
  let index ← startBatch
  commands.forM (append index)
  return index

end Building

end SwayControl
