/-!
Slots. A command is written as its slots with one space between neighbours; an optional argument that is
absent leaves its slot empty, and the spaces around it stay.
-/

namespace SwayControl

/-- The slots with one space between neighbours. -/
def spaced (slots : List String) : String := " ".intercalate slots

/-- A token that stands in its slot only under a condition. -/
def tokenIf (condition : Bool) (token : String) : String := if condition then token else ""

end SwayControl
