import SwayControl.Report.Human
import SwayControl.Text.ControlSequence

/-!
Emission: which form a result takes, and where it goes. JSON comes before the quiet form, and that
before all others. A success is written to the standard output and its warnings to the standard error; a
failure is written to the standard error and ends the program with a status that tells so.
-/

namespace SwayControl

/-- What the reader of a report asked for. -/
structure OutputMode where
  json : Bool
  quiet : Bool
  verbose : Bool
deriving DecidableEq, Repr

def OutputMode.format (mode : OutputMode) (r : ServiceResult) : String :=
  if mode.json then Report.json r
  else if mode.quiet then Report.quiet r
  else Report.human r mode.verbose

/-- What a program leaves behind: its status and its two streams. -/
structure Emission where
  status : Nat
  output : String
  errors : String
deriving DecidableEq, Repr

/-- A line on a stream, which no terminal reads. -/
def streamLine (text : String) : String :=
  String.ofList (Text.withoutSequences (text.toList ++ ['\n']))

/-- Writes a result. Warnings are part of the JSON form already. -/
def OutputMode.emit (mode : OutputMode) (r : ServiceResult) : Emission :=
  let text := streamLine (mode.format r)
  if r.ok then
    let warnings := if mode.json then [] else r.warnings
    ⟨0, text, String.join (warnings.map fun warning => streamLine ("WARNING: " ++ warning))⟩
  else ⟨1, "", text⟩

end SwayControl
