import SwayControl.Data.Lenient

/-!
Outcomes: what the window manager reports of each command of a batch. Truth values are read leniently,
from numbers and from words; other fields of an outcome are passed over.
-/

namespace SwayControl

structure Outcome where
  success : Bool
  error : Option String
  parseError : Bool
deriving DecidableEq, Repr

def Outcome.datum (o : Outcome) : Datum :=
  .table [("success", .flag o.success), ("error", o.error.elim .absent .text),
    ("parse_error", .flag o.parseError)]

/-- What is wrong with a value that should be an outcome or part of one. -/
inductive OutcomeReason where
  | noTable | missing
  | misfit (m : Misfit)
deriving DecidableEq, Repr

def OutcomeReason.text : OutcomeReason → String
  | .noTable => "Input should be a valid dictionary or instance of CommandOutcome"
  | .missing => "Field required"
  | .misfit m => m.text

def OutcomeReason.code : OutcomeReason → String
  | .noTable => "model_type"
  | .missing => "missing"
  | .misfit m => m.code

/-- A value that is wrong, the field it was for if it was for one, and what is wrong with it. -/
structure OutcomeFault where
  field : Option String
  reason : OutcomeReason
  value : Datum

/-- A field of an outcome, or why it cannot be read. -/
def readField {α : Type} (whole : Datum) (name : String) (missing : Except OutcomeReason α)
    (read : Datum → Lenient α) : Except OutcomeFault α :=
  match whole.field? name with
  | some value => (read value).mapError fun m => ⟨some name, .misfit m, value⟩
  | none => missing.mapError fun reason => ⟨some name, reason, whole⟩

def faultsOf {α : Type} : Except OutcomeFault α → List OutcomeFault
  | .ok _ => []
  | .error fault => [fault]

/-- An outcome from data, or all that is wrong with it. -/
def readOutcome (value : Datum) : Except (List OutcomeFault) Outcome :=
  match value with
  | .table _ =>
    let success := readField value "success" (.error .missing) Datum.readFlag
    let error := readField value "error" (.ok none) Datum.readOptionalText
    let parseError := readField value "parse_error" (.ok false) Datum.readFlag
    -- All three are read before a fault is reported, as the report lists every one.
    match success, error, parseError with
    | .ok success, .ok error, .ok parseError => .ok ⟨success, error, parseError⟩
    | success, error, parseError =>
      .error (faultsOf success ++ faultsOf error ++ faultsOf parseError)
  | value => .error [⟨none, .noTable, value⟩]

/-- The outcomes of a batch, or all that is wrong with the first that cannot be read. -/
def readOutcomes (values : List Datum) : Except (List OutcomeFault) (List Outcome) :=
  values.mapM readOutcome

/-- The longest text of a wrong value that is shown whole, in bytes. -/
def shownByteLimit : Nat := 50

/-- The characters in front that together take at most a number of bytes. -/
def takeBytes (limit : Nat) : List Char → List Char
  | [] => []
  | c :: rest => if c.utf8Size ≤ limit then c :: takeBytes (limit - c.utf8Size) rest else []

/-- A text without its middle, where it is too long to be shown whole. -/
def abridged (text : String) : String :=
  if text.utf8ByteSize ≤ shownByteLimit then text
  else
    let chars := text.toList
    let half := (shownByteLimit + 1) / 2
    -- The front may take one byte more than the end.
    String.ofList (takeBytes half chars) ++ "..." ++
      String.ofList (takeBytes (half - 1) chars.reverse).reverse

/-- The lines that report one fault. -/
def OutcomeFault.lines (fault : OutcomeFault) : List String :=
  fault.field.toList ++
    ["  " ++ fault.reason.text ++ " [type=" ++ fault.reason.code ++ ", input_value=" ++
        abridged fault.value.shown ++ ", input_type=" ++ fault.value.kind ++ "]",
      "    For further information visit https://errors.pydantic.dev/2.14/v/" ++ fault.reason.code]

/-- The first line of the report on a number of faults in a thing. -/
def faultCount (count : Nat) (thing : String) : String :=
  toString count ++ (if count == 1 then " validation error for " else " validation errors for ") ++
    thing

def outcomeReport (faults : List OutcomeFault) : String :=
  "\n".intercalate (faultCount faults.length "CommandOutcome" :: faults.flatMap OutcomeFault.lines)

end SwayControl
