import SwayControl.Json.Writer
import SwayControl.Log.Event

/-!
Records of the log: events with what is known of the whole run. A record is a line of text, in columns
for readers or as JSON for programs; in either form its fields are those of the event and, where the
event has none of that name, those of the run.
-/

namespace SwayControl

/-- What is known of a whole run: the socket it talks to and the configuration file it read. -/
structure LogContext where
  socket : Option String
  config : Option String
deriving DecidableEq, Repr

/-- What is known of a run as fields. -/
def LogContext.fields (context : LogContext) : Entries :=
  (context.socket.map fun socket => ("socket", Datum.text socket)).toList ++
    (context.config.map fun config => ("config", Datum.text config)).toList

structure LogRecord where
  event : Event
  context : LogContext

namespace LogRecord

/-- How grave all events are. -/
def level : String := "debug"

def fields (record : LogRecord) : Entries :=
  record.event.fields.foldl (fun entries field => Entries.put entries field.1 field.2)
    record.context.fields

def faultDatum (fault : String × String) : Datum :=
  .table [("exc_type", .text fault.1), ("exc_value", .text fault.2)]

def faults (record : LogRecord) : Entries :=
  (record.event.fault?.map fun fault =>
    ("exception", Datum.list (fault.chain.map faultDatum))).toList

/-- A record as data, without the time of it. -/
def entries (record : LogRecord) : Entries :=
  [("event", .text record.event.name)] ++ record.fields ++
    [("level", .text level), ("logger", .text record.event.source)] ++ record.faults

/-- A record as a line of JSON. -/
def jsonLine (record : LogRecord) (time : String) : String :=
  Json.spacedLine (.table (record.entries ++ [("timestamp", .text time)]))

/-- The characters for which a text in a column is shown between quotes. -/
def isAwkward (c : Char) : Bool := [' ', '\t', '=', '\r', '\n', '"', '\''].contains c

/-- The value of a field in a column. -/
def columnText : Datum → String
  | .text s => if s.any isAwkward then Text.quoted s else s
  | value => value.shown

/-- A text filled up with spaces to a width. -/
def padded (width : Nat) (text : String) : String :=
  text ++ String.ofList (List.replicate (width - text.length) ' ')

def levelWidth : Nat := 9

def eventWidth : Nat := 30

/-- A record as a line of columns, its fields in the order of their keys. -/
def columnLine (record : LogRecord) (time : String) : String :=
  let fields := record.fields.mergeSort fun a b => a.1 ≤ b.1
  " ".intercalate <|
    [time, "[" ++ padded levelWidth level ++ "]", padded eventWidth record.event.name,
        "[" ++ record.event.source ++ "]"] ++
      fields.map fun (key, value) => key ++ "=" ++ columnText value

end LogRecord

/-- The log of a run: whether its lines are JSON, and its records. -/
structure Journal where
  json : Bool
  records : List LogRecord

namespace Journal

def empty : Journal := ⟨false, []⟩

def line (journal : Journal) (time : String) (record : LogRecord) : String :=
  if journal.json then record.jsonLine time else record.columnLine time

end Journal

end SwayControl
