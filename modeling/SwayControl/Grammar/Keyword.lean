/-!
Keywords: the slots of the command language that take one of a fixed list of words. Each such list is a
type; its members are written as their text, and messages show them with their family and name.
-/

namespace SwayControl

/-- The usual name of a keyword: its text in capitals, with low lines for blanks and hyphens. -/
def keywordName (text : String) : String :=
  text.map fun c => if c == ' ' || c == '-' then '_' else c.toUpper

/-- A type whose members are the words of one slot. -/
class Keyword (α : Type) where
  /-- What messages call the list of words. -/
  family : String
  /-- The words in their usual order. -/
  all : List α
  /-- How a word is written in a command. -/
  text : α → String
  /-- How messages name a word. -/
  member : α → String := fun a => keywordName (text a)

/-- A keyword whose list is known only by name. -/
structure Word where
  family : String
  member : String
  text : String
deriving DecidableEq, Repr

namespace Keyword

variable {α : Type} [Keyword α]

def word (a : α) : Word := ⟨family α, member a, text a⟩

variable (α) in
def words : List Word := (all : List α).map word

/-- The member of the list that a word names, if it is of this list. -/
def ofWord? (w : Word) : Option α :=
  if w.family == family α then all.find? fun a => member a == w.member else none

end Keyword

end SwayControl
