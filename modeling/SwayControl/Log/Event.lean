import SwayControl.Ipc.Fault

/-!
Events: what the program notes about its work. An event has a name, the part of the program that it
comes from, and some fields; a failure also keeps the fault that caused it.
-/

namespace SwayControl

inductive Event where
  | rebuilt (subCommands : Nat)
  | clientCreated (socket : Option String)
  | connected (socket : Option String)
  | sent (type : Int) (size : Nat)
  | replied (type size : Nat)
  | runFailed (command : String) (fault : IpcFault)
  | versionFailed (fault : IpcFault)

namespace Event

def name : Event → String
  | .rebuilt _ => "criteria_rebuild"
  | .clientCreated _ => "ipc_client_created"
  | .connected _ => "ipc_connected"
  | .sent _ _ => "ipc_sent"
  | .replied _ _ => "ipc_reply"
  | .runFailed _ _ | .versionFailed _ => "ipc_failure"

def source : Event → String
  | .rebuilt _ => "swaycmd.domain.command"
  | .clientCreated _ => "swaycmd.services.base"
  | .connected _ | .sent _ _ | .replied _ _ => "swaycmd.infrastructure.ipc"
  | .runFailed _ _ => "swaycmd.services.dispatch"
  | .versionFailed _ => "swaycmd.services.version"

def pathDatum (path : Option String) : Datum := path.elim .absent .text

def fields : Event → Entries
  | .rebuilt subCommands => [("subcommands", .int subCommands)]
  | .clientCreated socket | .connected socket => [("socket", pathDatum socket)]
  | .sent type size => [("message_type", .int type), ("size", .int size)]
  | .replied type size => [("message_type", .int type), ("size", .int size)]
  | .runFailed command _ => [("command", .text command)]
  | .versionFailed _ => []

/-- The fault that an event reports. -/
def fault? : Event → Option IpcFault
  | .runFailed _ fault | .versionFailed fault => some fault
  | _ => none

end Event

end SwayControl
