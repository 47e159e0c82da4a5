/-!
Blanks and words. Twenty-nine characters of Unicode separate words; a text is squeezed by writing its
words with one space between neighbours, so runs of blanks shrink and both ends lose theirs.
-/

namespace SwayControl.Text

/-- The characters that separate words: tab to carriage return, the four information separators, the
space, the next-line control, and the space and line separators of Unicode. -/
def isBlank (c : Char) : Bool :=
  let n := c.toNat
  (0x09 ≤ n && n ≤ 0x0D) || (0x1C ≤ n && n ≤ 0x20) || n == 0x85 || n == 0xA0 || n == 0x1680 ||
    (0x2000 ≤ n && n ≤ 0x200A) || n == 0x2028 || n == 0x2029 || n == 0x202F || n == 0x205F ||
    n == 0x3000

/-- The maximal runs of characters that are no blanks, in order. -/
def words : List Char → List (List Char)
  | [] => []
  | c :: rest =>
    if isBlank c then words rest
    else if rest.head?.any (!isBlank ·) then
      match words rest with
      | [] => [[c]]
      | word :: others => (c :: word) :: others
    else [c] :: words rest

/-- The words of a text with one space between neighbours and nothing at either end. -/
def squeeze (text : String) : String :=
  " ".intercalate ((words text.toList).map String.ofList)

/-- Whether a blank counts as white space around a number, which the four information separators do
not. -/
def isWhiteSpace (c : Char) : Bool := isBlank c && !(0x1C ≤ c.toNat && c.toNat ≤ 0x1F)

/-- A text without the white space at its ends. -/
def trimmed (text : List Char) : List Char :=
  ((text.dropWhile isWhiteSpace).reverse.dropWhile isWhiteSpace).reverse

@[simp] theorem words_nil : words [] = [] := rfl

/-- A leading blank adds no word. -/
theorem words_blank {c : Char} (h : isBlank c) (rest : List Char) : words (c :: rest) = words rest := by
  simp [words, h]

end SwayControl.Text
