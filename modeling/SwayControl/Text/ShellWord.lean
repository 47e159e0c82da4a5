/-!
Words of a shell command line. A word of safe characters is written bare; any other is written
between single quotes, and a single quote inside it as a double-quoted one between two quoted parts.
-/

namespace SwayControl.Text

/-- The characters that never need a quote in a shell word. -/
def isSafeInShell (c : Char) : Bool :=
  c.isAlphanum || "_@%+=:,./-".toList.contains c

/-- How a single quote is written inside a single-quoted word. -/
def shellQuoteEscape : List Char := ['\'', '"', '\'', '"', '\'']

/-- A word as it must be typed to reach a program unchanged. -/
def shellWord (word : List Char) : List Char :=
  if !word.isEmpty && word.all isSafeInShell then word
  else ['\''] ++ word.flatMap (fun c => if c == '\'' then shellQuoteEscape else [c]) ++ ['\'']

/-- A command line whose words are the given arguments. -/
def shellLine (arguments : List String) : String :=
  " ".intercalate (arguments.map fun a => String.ofList (shellWord a.toList))

end SwayControl.Text
