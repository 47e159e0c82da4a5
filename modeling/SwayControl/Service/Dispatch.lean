import SwayControl.Builder.Batch
import SwayControl.Ipc.Client
import SwayControl.Service.Result
import SwayControl.Text.Blank

/-!
Dispatch: writing a batch of commands, and sending it to the window manager. What goes wrong with the
window manager becomes a failed result; an empty batch is refused before anything else happens.
-/

namespace SwayControl

/-- The text that is sent for a batch, and the number of its commands. -/
structure Order where
  text : String
  count : Nat
deriving DecidableEq, Repr

/-- The order for a batch, with blanks squeezed if asked. -/
def Batch.order (b : Batch) (normalize : Bool) : Order :=
  ⟨if normalize then Text.squeeze b.text else b.text, b.commands.length⟩

/-- The order for commands that are texts already. -/
def Order.ofTexts (commands : List String) (normalize : Bool) : Order :=
  let text := commandSeparator.intercalate commands
  ⟨if normalize then Text.squeeze text else text, commands.length⟩

/-- What commands are given as: a batch that is built already, or the values to build one of. -/
inductive Submission where
  | batch (index : Nat)
  | values (commands : List Value)

def Submission.asBatch : Submission → Building Nat
  | .batch index => return index
  | .values commands => Building.batchOf commands

def Submission.order (given : Submission) (normalize : Bool) : Building Order := do
  return (← Building.batch (← given.asBatch)).order normalize

/-- What a service ends in, a result or a fault that it hands on, with the sockets and the events of it. -/
structure Served where
  result : Except Uncontained ServiceResult
  sockets : List Socket
  events : List Event

/-- What a service makes of an exchange: a report on its answer, or on its fault unless that is handed
on. -/
def Served.ofExchange {α : Type} (report : α → ServiceResult)
    (failed : IpcFault → ServiceResult × List Event) :
    Except IpcFault α × List Socket × List Event → Served
  | (.ok a, sockets, events) => ⟨.ok (report a), sockets, events⟩
  | (.error fault, sockets, events) =>
    match fault.uncontained? with
    | some uncontained => ⟨.error uncontained, sockets, events⟩
    | none =>
      let (result, noted) := failed fault
      ⟨.ok result, sockets, events ++ noted⟩

namespace Dispatch

/-- The result of writing a batch without sending it. -/
def render (order : Order) : ServiceResult :=
  .success "render" [("command", .text order.text), ("count", .int order.count)]

/-- The result where commands were refused: how many, and the error of the first of them. -/
def refused (order : Order) (outcomes failed : List Outcome) : ServiceResult :=
  let reported := match failed.head?.bind Outcome.error with
    | some text => if text.isEmpty then "command failed" else text
    | none => "command failed"
  .failure "run" "COMMAND_FAILED"
    (toString failed.length ++ " of " ++ toString outcomes.length ++ " command(s) failed: " ++
      reported)
    [("command", .text order.text), ("outcomes", .list (outcomes.map Outcome.datum))]

/-- The result of a batch whose outcomes are known. -/
def reported (order : Order) (outcomes : List Outcome) : ServiceResult :=
  let failed := outcomes.filter fun o => !o.success
  if failed.isEmpty then
    .success "run"
      [("command", .text order.text), ("count", .int order.count),
        ("outcomes", .list (outcomes.map Outcome.datum))]
  else refused order outcomes failed

/-- The result of a batch that could not be sent, and the event that tells of it. -/
def failed (order : Order) (fault : IpcFault) : ServiceResult × List Event :=
  if fault.isNoSocket then (.failure "run" "NO_SOCKET" fault.message [], [])
  else
    (.failure "run" "IPC_ERROR" fault.message [("command", .text order.text)],
      [.runFailed order.text fault])

end Dispatch

/-- What is done with a client: it connects, something is exchanged, and it is closed whether that
succeeded or not. -/
def Exchange.within {α : Type} (exchange : Exchange α) : Exchange α := do
  note (.clientCreated (← get).client.path)
  connect
  -- A client that could not connect has nothing to close, so only what comes now is guarded.
  try
    let a ← exchange
    close
    return a
  catch fault =>
    close
    throw fault

/-- Runs an exchange with a new client: what it answers, and the sockets and events of it. -/
def ClientPlan.serve {α : Type} (plan : ClientPlan) (peers : List Peer) (exchange : Exchange α) :
    Except IpcFault α × List Socket × List Event :=
  match plan.link peers with
  | .error fault => (.error fault, [], [])
  | .ok link =>
    match exchange.within.run link with
    | .ok a after => (.ok a, after.network.sockets, after.events)
    | .error fault after => (.error fault, after.network.sockets, after.events)

/-- Sends the commands of a batch, or only reports what would be sent. -/
def Dispatch.run (order : Order) (dryRun : Bool) (plan : ClientPlan) (peers : List Peer) : Served :=
  if order.count == 0 then
    ⟨.ok (.failure "run" "EMPTY_COMMAND" "No commands to run" []), [], []⟩
  else if dryRun then
    ⟨.ok (.success "run" [("command", .text order.text), ("count", .int order.count),
      ("dry_run", .flag true)]), [], []⟩
  else
    .ofExchange (reported order) (failed order)
      (plan.serve peers (Exchange.runCommand order.text.toUTF8.toList))

end SwayControl
