/-!
Control sequences, which tell a terminal how to show what follows. One begins with the escape character
and an opening bracket, goes on with digits, semicolons and question marks, and ends with a letter; they
are left out of what no terminal reads.
-/

namespace SwayControl.Text

/-- The character that control sequences begin with. -/
def escapeChar : Char := '\x1B'

/-- Whether a character belongs to the parameters of a control sequence. -/
def isParameter (c : Char) : Bool := c.isDigit || c == ';' || c == '?'

/-- What follows a control sequence, if a text without its escape character begins with one. -/
def afterSequence? : List Char → Option (List Char)
  | '[' :: rest =>
    match rest.dropWhile isParameter with
    | c :: others => if c.isAlpha then some others else none
    | [] => none
  | _ => none

/-- A control sequence is not empty. -/
theorem afterSequence?_length {text rest : List Char} (h : afterSequence? text = some rest) :
    rest.length < text.length := by
  unfold afterSequence? at h
  split at h
  next tail =>
    have shorter := (List.dropWhile_sublist isParameter (l := tail)).length_le
    split at h
    next c others found =>
      split at h
      next =>
        cases h
        rw [found] at shorter
        simp only [List.length_cons] at shorter ⊢
        omega
      next => cases h
    next => cases h
  next => cases h

/-- A text without its control sequences. -/
def withoutSequences : List Char → List Char
  | [] => []
  | c :: rest =>
    if c = escapeChar then
      match _ : afterSequence? rest with
      | some after => withoutSequences after
      | none => c :: withoutSequences rest
    else c :: withoutSequences rest
termination_by text => text.length
decreasing_by
  · have := afterSequence?_length ‹_›
    simp only [List.length_cons]
    omega
  all_goals simp

end SwayControl.Text
