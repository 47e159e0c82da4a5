import SwayControl.Json.Writer
import SwayControl.Service.Result
import SwayControl.Text.Cells

/-!
Reports for readers. Each operation has a form of its own: writing a batch shows its text alone, running
one a status line and its fields, and any other all its data. Lines are shown on a terminal of any
width.
-/

namespace SwayControl.Report

def statusLine (r : ServiceResult) : String := "OK: " ++ r.op

/-- A value as it stands in a field: lists and tables in compact JSON. -/
def fieldText : Datum → String
  | .list items => Json.compact (.list items)
  | .table entries => Json.compact (.table entries)
  | value => value.written

def fieldLine (key : String) (value : Datum) : String := "  " ++ key ++ ": " ++ fieldText value

/-- The entry of some data with a key, or a value in its place. -/
def entryOr (entries : Entries) (key : String) (fallback : Datum) : Datum :=
  (entries.lookup key).getD fallback

/-- The items of a list or tuple. -/
def itemsOf : Datum → List Datum
  | .list items | .tuple items => items
  | _ => []

def failureMessage (r : ServiceResult) : String := r.error.elim "Unknown error" ServiceError.message

/-- The lines for the commands that failed. -/
def failedLines (detail : Entries) : List String :=
  let outcomes := itemsOf (entryOr detail "outcomes" (.list []))
  let failed := outcomes.filter fun o => !((o.field? "success").getD .absent).truth
  failed.map fun o => "  failed: " ++ ((o.field? "error").getD .absent).written

def detailLines (detail : Entries) : List String :=
  "  detail:" :: detail.map fun (key, value) => "    " ++ key ++ ": " ++ value.written

def errorLines (r : ServiceResult) (verbose : Bool) : List String :=
  let detail := r.error.elim [] ServiceError.detail
  ["ERROR: " ++ r.op ++ " - " ++ failureMessage r] ++
    (if detail.isEmpty then []
     else failedLines detail ++ if verbose then detailLines detail else [])

/-- The lines of a batch that was written: its text, ready to be sent elsewhere. -/
def renderLines (r : ServiceResult) (verbose : Bool) : List String :=
  [(entryOr r.data "command" (.text "")).written] ++
    if verbose then [fieldLine "count" (entryOr r.data "count" (.int 0))] else []

def runLines (r : ServiceResult) (verbose : Bool) : List String :=
  [statusLine r, fieldLine "command" (entryOr r.data "command" (.text "")),
      fieldLine "count" (entryOr r.data "count" (.int 0))] ++
    (if (entryOr r.data "dry_run" .absent).truth then [fieldLine "dry_run" (.flag true)] else []) ++
    if verbose then
      (itemsOf (entryOr r.data "outcomes" (.list []))).map fun o => "    " ++ o.written
    else []

/-- The fields of a version that are shown only if asked, and only if they are known. -/
def versionDetails : List String := ["major", "minor", "patch", "config_file"]

def versionLines (r : ServiceResult) (verbose : Bool) : List String :=
  let sway := entryOr r.data "sway" .absent
  [statusLine r, fieldLine "swaycmd" (entryOr r.data "swaycmd" .absent),
      fieldLine "sway" (if sway.truth then sway else .text "unknown")] ++
    if verbose then
      versionDetails.filterMap fun key =>
        match entryOr r.data key .absent with
        | .absent => none
        | value => some (fieldLine key value)
    else []

def otherLines (r : ServiceResult) : List String :=
  statusLine r :: r.data.map fun (key, value) => fieldLine key value

def lines (r : ServiceResult) (verbose : Bool) : List String :=
  if !r.ok then errorLines r verbose
  else
    match r.op with
    | "render" => renderLines r verbose
    | "run" => runLines r verbose
    | "version" => versionLines r verbose
    | _ => otherLines r

/-- A text without the line breaks at its end. -/
def withoutLastBreaks (text : String) : String :=
  String.ofList (text.toList.reverse.dropWhile (· == '\n')).reverse

def human (r : ServiceResult) (verbose : Bool) : String :=
  withoutLastBreaks ("\n".intercalate ((lines r verbose).map Text.onTerminal))

/-- A result in one line: the text of the batch if there is one. -/
def quiet (r : ServiceResult) : String :=
  if !r.ok then "ERROR: " ++ r.op ++ " - " ++ failureMessage r
  else
    match entryOr r.data "command" .absent with
    | .absent => "OK: " ++ r.op
    | command => command.written

def json (r : ServiceResult) : String := Json.indented r.datum

end SwayControl.Report
