import SwayControl.Ipc.Frame
import SwayControl.Ipc.Outcome
import SwayControl.Ipc.Socket
import SwayControl.Json.Reader

/-!
Faults of an exchange with the window manager, by cause. Those that say that there is no socket to
connect to are told apart from all that can happen on a socket. Two faults are no faults of the exchange:
that a message has no frame, and that a reply nests deeper than its reader goes.
-/

namespace SwayControl

inductive IpcFault where
  | noPath
  | notFound (path : Option String)
  | cannotConnect (path : Option String) (reason : String)
  | transport (reason : String)
  | header (fault : Frame.HeaderFault)
  | ended (remaining size : Nat)
  | otherType (reply : Nat) (request : Int)
  | payload (fault : JsonFault)
  | tooDeep (inner : Json.Container)
  | notList (kind : String)
  | notTable (kind : String)
  | outcomes (faults : List OutcomeFault)
  | unframable (fault : Frame.PackFault)

def shownPath (path : Option String) : String := path.getD "None"

def IpcFault.message : IpcFault → String
  | .noPath => "No sway IPC socket path (is SWAYSOCK set?)"
  | .notFound path => "Sway IPC socket not found: " ++ shownPath path
  | .cannotConnect path reason => "Cannot connect to " ++ shownPath path ++ ": " ++ reason
  | .transport reason => "IPC transport failure: " ++ reason
  | .header fault => fault.message
  | .ended remaining size =>
    "Connection closed with " ++ toString remaining ++ " of " ++ toString size ++ " bytes unread"
  | .otherType reply request =>
    "Reply type " ++ toString reply ++ " does not match request type " ++ toString request
  | .payload fault => "Malformed reply payload: " ++ fault.message
  | .tooDeep inner => inner.tooDeepText
  | .notList kind => "Expected a list reply to RUN_COMMAND, got " ++ kind
  | .notTable kind => "Expected an object reply to GET_VERSION, got " ++ kind
  | .outcomes faults => "Malformed command outcome: " ++ outcomeReport faults
  | .unframable fault => fault.message

/-- Why a payload gives no value, as a fault of the exchange. -/
def IpcFault.unread : Json.Unread → IpcFault
  | .malformed fault => .payload fault
  | .tooDeep inner => .tooDeep inner

/-- What the fault of a payload that is no JSON is called. -/
def payloadFaultName : JsonFault → String
  | .notText _ => "UnicodeDecodeError"
  | .wrong .. => "JSONDecodeError"
  | .tooManyDigits _ => "ValueError"

/-- The fault below another one, by its name and message, where there is one. -/
def IpcFault.cause? : IpcFault → Option (String × String)
  | .cannotConnect _ reason | .transport reason => some ("OSError", reason)
  | .payload fault => some (payloadFaultName fault, fault.message)
  | .outcomes faults => some ("ValidationError", outcomeReport faults)
  | _ => none

/-- The name and message of a fault that is no lack of a socket, and those of the one below it. -/
def IpcFault.chain (fault : IpcFault) : List (String × String) :=
  ("IpcError", fault.message) :: fault.cause?.toList

/-- A fault that is handed on by all that report the faults of an exchange. -/
inductive Uncontained where
  | unframable (fault : Frame.PackFault)
  | tooDeep (inner : Json.Container)
deriving DecidableEq, Repr

def Uncontained.message : Uncontained → String
  | .unframable fault => fault.message
  | .tooDeep inner => inner.tooDeepText

def IpcFault.uncontained? : IpcFault → Option Uncontained
  | .unframable fault => some (.unframable fault)
  | .tooDeep inner => some (.tooDeep inner)
  | _ => none

def IpcFault.isNoSocket : IpcFault → Bool
  | .noPath | .notFound _ => true
  | _ => false

end SwayControl
