import SwayControl.Text.Width

/-!
Lines of a terminal. A tab reaches to the next stop, so the width of what stands before it counts. In
that width a joiner hides the character after it, and a selector turns the character before it into a
picture.
-/

namespace SwayControl.Text

/-- The character that joins the next one to the one before it, so that both share their cells. -/
def joiner : Char := '\u200D'

/-- The character that asks for the one before it to be shown as a picture. -/
def pictureSelector : Char := '\uFE0F'

/-- A line measured from its left: the cells so far, the last character that took any of them and is not
yet a picture, and whether a joiner hides the next character. -/
structure Measure where
  width : Nat
  base : Option Char
  hidden : Bool
deriving DecidableEq, Repr

namespace Measure

/-- A line that has filled some cells and carries nothing over to what follows. -/
def ofWidth (width : Nat) : Measure := ⟨width, none, false⟩

/-- A line with one character more. Characters without cells leave the last one with cells in place. -/
def step (m : Measure) (c : Char) : Measure :=
  if m.hidden then { m with hidden := false }
  else if c == joiner then { m with hidden := true }
  else if c == pictureSelector then
    -- As a picture the last character takes two cells, one more than it took as text.
    .ofWidth (m.width + if m.base.any isNarrowPicture then 1 else 0)
  else if cells c == 0 then m
  else ⟨m.width + cells c, some c, false⟩

end Measure

def tabWidth : Nat := 8

/-- The spaces from some cells on to the next stop, none at a stop. -/
def spacesToStop (column : Nat) : Nat := (tabWidth - column % tabWidth) % tabWidth

/-- A text whose tabs are spaces, when its first character stands after what was measured. A tab is one
space and as many more as lead to the next stop; behind a joiner the one space takes no cell. Each line
begins anew. -/
def expandTabsFrom (m : Measure) : List Char → List Char
  | [] => []
  | c :: rest =>
    if c == '\t' then
      let column := (m.step ' ').width
      List.replicate (spacesToStop column + 1) ' ' ++
        expandTabsFrom (.ofWidth (column + spacesToStop column)) rest
    else if c == '\n' then c :: expandTabsFrom (.ofWidth 0) rest
    else c :: expandTabsFrom (m.step c) rest

/-- The control characters that a terminal text may not hold: bell, backspace, vertical tab, form feed
and carriage return. -/
def isDropped (c : Char) : Bool := [7, 8, 11, 12, 13].contains c.toNat

/-- A text as it is shown on a terminal of any width. -/
def onTerminal (text : String) : String :=
  String.ofList (expandTabsFrom (.ofWidth 0) (text.toList.filter fun c => !isDropped c))

end SwayControl.Text
