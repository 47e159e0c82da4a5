import SwayControl.Data.Datum

/-!
Results of operations. Whether an operation succeeded or not, what it reports is one value: data on
success, an error otherwise, and warnings in either case.
-/

namespace SwayControl

/-- Why an operation failed: a short code, a message, and what belongs to it. -/
structure ServiceError where
  code : String
  message : String
  detail : Entries

structure ServiceResult where
  ok : Bool
  op : String
  data : Entries
  warnings : List String
  error : Option ServiceError
  extra : Option Entries

namespace ServiceResult

def success (op : String) (data : Entries) : ServiceResult := ⟨true, op, data, [], none, none⟩

def failure (op code message : String) (detail : Entries) : ServiceResult :=
  ⟨false, op, [], [], some ⟨code, message, detail⟩, none⟩

def errorDatum (e : ServiceError) : Datum :=
  .table [("code", .text e.code), ("message", .text e.message), ("detail", .table e.detail)]

def datum (r : ServiceResult) : Datum :=
  .table [("ok", .flag r.ok), ("op", .text r.op), ("data", .table r.data),
    ("warnings", .list (r.warnings.map .text)), ("error", r.error.elim .absent errorDatum),
    ("meta", r.extra.elim .absent .table)]

end ServiceResult

end SwayControl
