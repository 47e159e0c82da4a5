/-!
Likeness of texts. Two texts are compared by the longest block of characters that both hold, then by
what stands before that block in each, and by what stands behind it; they are alike if six tenths of
their characters are in shared blocks.
-/

namespace SwayControl.Text

/-- A block of characters that two texts share: where it begins in each, and its length. -/
structure SharedBlock where
  first : Nat
  second : Nat
  length : Nat
deriving DecidableEq, Repr

/-- The number of characters in front that two texts share. -/
def sharedFront : List Char → List Char → Nat
  | a :: as, b :: bs => if a == b then sharedFront as bs + 1 else 0
  | _, _ => 0

/-- The blocks that two texts share from given places on. -/
def sharedBlocks (a b : List Char) : List SharedBlock :=
  (List.range a.length).flatMap fun i =>
    (List.range b.length).map fun j => ⟨i, j, sharedFront (a.drop i) (b.drop j)⟩

/-- The longest block that two texts share. Of several it is the one that begins first in the first
text, and of those the one that begins first in the second. -/
def longestShared (a b : List Char) : SharedBlock :=
  (sharedBlocks a b).foldl (fun best block => if best.length < block.length then block else best)
    ⟨0, 0, 0⟩

/-- The number of characters in shared blocks. -/
def sharedCount (a b : List Char) : Nat :=
  match longestShared a b with
  | ⟨i, j, size⟩ =>
    -- A block lies in the first text, so the second condition only shows that both sides are shorter.
    if 0 < size ∧ i + size ≤ a.length then
      sharedCount (a.take i) (b.take j) + size + sharedCount (a.drop (i + size)) (b.drop (j + size))
    else 0
termination_by a.length
decreasing_by
  all_goals simp only [List.length_take, List.length_drop]; omega

/-- A text that is compared with another one, and how much of both is shared. -/
structure Likeness where
  name : String
  shared : Nat
  total : Nat
deriving DecidableEq, Repr

namespace Likeness

/-- How much a name is like a word. -/
def of (word name : String) : Likeness :=
  ⟨name, sharedCount name.toList word.toList, name.length + word.length⟩

/-- Whether six tenths of all characters are shared. -/
def isHigh (l : Likeness) : Bool := 3 * l.total ≤ 5 * (2 * l.shared)

/-- Whether one name is more like the word than another, or later in order if both are as like it. -/
def above (l other : Likeness) : Bool :=
  if l.shared * other.total == other.shared * l.total then other.name ≤ l.name
  else other.shared * l.total ≤ l.shared * other.total

end Likeness

/-- Whether two lengths are near enough for texts of them to be alike. -/
def lengthsNear (m n : Nat) : Bool := 3 * (m + n) ≤ 10 * min m n

/-- The names that are most like a word, at most three, in their order. -/
def alikeNames (word : String) (names : List String) : List String :=
  let near := names.filter fun name => lengthsNear name.length word.length
  let alike := (near.map (Likeness.of word)).filter Likeness.isHigh
  (((alike.mergeSort Likeness.above).take 3).map Likeness.name).mergeSort fun a b => a ≤ b

end SwayControl.Text
