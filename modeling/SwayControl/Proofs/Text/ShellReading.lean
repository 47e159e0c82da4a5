import SwayControl.CommandLine.Example

/-!
Reading shell text. A reader goes through the characters and keeps the commands and words it has completed,
the word it is in, and how that word is quoted there. Of escapes, expansions, patterns, comments and what
joins commands it makes nothing: where one is not quoted, the text is not read at all. Quoted words are read
as they were, so printed examples are read back as typed.
-/

namespace SwayControl.Text.Shell

/-- How the characters at some place of a shell text are quoted. -/
inductive Quoting where
  | bare | single | double
deriving DecidableEq, Repr

/-- What has been read of a shell text: complete commands, complete words of a further command, the word
that has begun if one has, and the quoting of what comes next. -/
structure Progress where
  commands : List (List String)
  words : List String
  word : Option (List Char)
  quoting : Quoting
deriving DecidableEq, Repr

/-- The characters besides blanks and quotes that may mean something else where they are bare. -/
def activeBare : List Char := "\\$`|&;<>()*?[]#~!^\x7b\x7d".toList

/-- The characters that may mean something else between double quotes. -/
def activeQuoted : List Char := "\\$`!".toList

namespace Progress

/-- Nothing has been read. -/
def start : Progress := ⟨[], [], none, .bare⟩

/-- More characters of the present word, which begins with them if none had begun. -/
def write (p : Progress) (text : List Char) : Progress :=
  { p with word := some (p.word.getD [] ++ text) }

/-- The end of the present word, if one has begun. -/
def endWord (p : Progress) : Progress :=
  match p.word with
  | some word => { p with words := p.words ++ [String.ofList word], word := none }
  | none => p

/-- The end of the present command, if it has any words. -/
def endCommand (p : Progress) : Progress :=
  let p := p.endWord
  if p.words.isEmpty then p else { p with commands := p.commands ++ [p.words], words := [] }

/-- Reads one more character. A quote begins a word even if nothing is written between it and the next. -/
def step (p : Progress) (c : Char) : Option Progress :=
  match p.quoting with
  | .bare =>
    if c == '\n' then some p.endCommand
    else if c == ' ' || c == '\t' then some p.endWord
    else if c == '\'' then some { p.write [] with quoting := .single }
    else if c == '"' then some { p.write [] with quoting := .double }
    else if activeBare.contains c then none
    else some (p.write [c])
  | .single => some (if c == '\'' then { p with quoting := .bare } else p.write [c])
  | .double =>
    if c == '"' then some { p with quoting := .bare }
    else if activeQuoted.contains c then none
    else some (p.write [c])

/-- Reads some more characters. -/
def read (p : Progress) (text : List Char) : Option Progress := text.foldlM step p

end Progress

/-- The commands of a shell text and the words of each, unless a quote is open at its end or a character may
mean something else. -/
def commands? (text : String) : Option (List (List String)) :=
  (Progress.start.read text.toList).bind fun p =>
    if p.quoting = .bare then some p.endCommand.commands else none

example : commands? "a'b c'\"d'\" \t''\n\n e" = some [["ab cd'", ""], ["e"]] := by decide

/-! ### Quoted words -/

namespace Progress

variable {p r last : Progress} {c separator : Char} {s t text : List Char} {finish : Progress → Progress}
  {word : String} {words : List String} {commands : List (List String)}

theorem read_cons : p.read (c :: text) = (p.step c).bind (·.read text) := rfl

theorem read_append : p.read (s ++ t) = (p.read s).bind (·.read t) := List.foldlM_append

theorem write_write : (p.write s).write t = p.write (s ++ t) := by
  simp [write, List.append_assoc]

/-- A safe character stands for itself. -/
theorem step_safe (hbare : p.quoting = .bare) (hsafe : isSafeInShell c = true) :
    p.step c = some (p.write [c]) := by
  have hne {d : Char} (hd : isSafeInShell d = false) : (c == d) = false := by
    refine beq_eq_false_iff_ne.mpr fun heq => ?_
    rw [heq, hd] at hsafe
    cases hsafe
  have hunsafe : activeBare.all (fun d => !isSafeInShell d) = true := by decide
  have hpassive : c ∉ activeBare := by
    intro hactive
    have hc := List.all_eq_true.mp hunsafe c hactive
    rw [hsafe] at hc
    cases hc
  have hbreak : (c == '\n') = false := hne rfl
  have hspace : (c == ' ') = false := hne rfl
  have htab : (c == '\t') = false := hne rfl
  have hsingle : (c == '\'') = false := hne rfl
  have hdouble : (c == '"') = false := hne rfl
  simp [step, hbare, hbreak, hspace, htab, hsingle, hdouble, hpassive]

theorem read_safe (hbare : p.quoting = .bare) (hsafe : ∀ c ∈ text, isSafeInShell c = true)
    (hne : text ≠ []) : p.read text = some (p.write text) := by
  induction text generalizing p with
  | nil => exact absurd rfl hne
  | cons c rest ih =>
      obtain ⟨hc, hrest⟩ := List.forall_mem_cons.mp hsafe
      rw [read_cons, step_safe hbare hc, Option.bind_some]
      cases rest with
      | nil => rfl
      | cons d rest =>
          have hread := ih (p := p.write [c]) hbare hrest (List.cons_ne_nil d rest)
          rw [hread, write_write, List.singleton_append]

/-- Some characters of the present word, of which the last stand between single quotes. -/
def inside (p : Progress) (text : List Char) : Progress :=
  { p.write text with quoting := .single }

/-- Between single quotes an escaped quote is a quote, and any other character is itself. -/
theorem read_escaped : (p.inside s).read
    (text.flatMap fun c => if c == '\'' then shellQuoteEscape else [c]) =
      some (p.inside (s ++ text)) := by
  induction text generalizing s with
  | nil => rw [List.append_nil]; rfl
  | cons c rest ih =>
      have hc : (p.inside s).read (if c == '\'' then shellQuoteEscape else [c]) =
          some (p.inside (s ++ [c])) := by
        by_cases hquote : c = '\''
        · -- The quotes are closed and opened again around it, and nothing ends the word in between.
          subst hquote
          simp [read, step, inside, write, shellQuoteEscape, activeQuoted]
        · simp [read, step, inside, write, hquote]
      rw [List.flatMap_cons, read_append, hc, Option.bind_some, ih, List.append_assoc,
        List.singleton_append]

/-- A word is read as what was quoted, behind what had begun. -/
theorem read_shellWord (hbare : p.quoting = .bare) : p.read (shellWord text) = some (p.write text) := by
  unfold shellWord
  split
  case isTrue hsafe =>
    rw [Bool.and_eq_true, List.all_eq_true] at hsafe
    exact read_safe hbare hsafe.2 (by simpa using hsafe.1)
  case isFalse =>
    have hopen : p.read ['\''] = some (p.inside []) := by
      simp [read, step, hbare, inside]
    have hclose : (p.inside text).read ['\''] = some (p.write text) := by
      simp [read, step, inside, write, hbare]
    rw [read_append, read_append, hopen, Option.bind_some, read_escaped, Option.bind_some,
      List.nil_append, hclose]

/-! ### Words and commands -/

/-- Reading a text leads to some progress as soon as what is last is finished. -/
def Reaches (p : Progress) (finish : Progress → Progress) (text : List Char) (r : Progress) : Prop :=
  ∃ q, p.read text = some q ∧ q.quoting = .bare ∧ finish q = r

/-- A separator finishes what stands before it. -/
theorem Reaches.separated (hstep : ∀ q, q.quoting = .bare → q.step separator = some (finish q))
    (h : p.Reaches finish s r) (h' : r.Reaches finish t last) :
    p.Reaches finish (s ++ [separator] ++ t) last := by
  obtain ⟨q, hread, hbare, rfl⟩ := h
  obtain ⟨q', hread', hend'⟩ := h'
  have hseparator : q.read [separator] = some (finish q) := by
    rw [read_cons, hstep q hbare]
    rfl
  refine ⟨q', ?_, hend'⟩
  rw [read_append, read_append, hread, Option.bind_some, hseparator, Option.bind_some, hread']

theorem step_space (hbare : p.quoting = .bare) : p.step ' ' = some p.endWord := by
  simp [step, hbare]

theorem step_newline (hbare : p.quoting = .bare) : p.step '\n' = some p.endCommand := by
  simp [step, hbare]

/-- No word has begun. -/
structure Between (p : Progress) : Prop where
  word : p.word = none
  quoting : p.quoting = .bare

/-- More complete words. -/
def withWords (p : Progress) (words : List String) : Progress := { p with words := p.words ++ words }

theorem Between.withWords (h : p.Between) : (p.withWords words).Between := ⟨h.word, h.quoting⟩

theorem Between.endWord_eq (h : p.Between) : p.endWord = p := by
  simp [endWord, h.word]

theorem Between.reaches_word (h : p.Between) :
    p.Reaches endWord (shellWord word.toList) (p.withWords [word]) := by
  refine ⟨p.write word.toList, read_shellWord h.quoting, h.quoting, ?_⟩
  simp [endWord, write, Progress.withWords, h.word]

theorem Between.reaches_words (h : p.Between) (hne : words ≠ []) :
    p.Reaches endWord ([' '].intercalate (words.map fun w => shellWord w.toList))
      (p.withWords words) := by
  induction words generalizing p with
  | nil => exact absurd rfl hne
  | cons word rest ih =>
      cases rest with
      | nil => simpa using h.reaches_word
      | cons next rest =>
          have hready : (p.withWords [word]).Between := h.withWords
          have hrest := ih hready (List.cons_ne_nil next rest)
          have hwords : (p.withWords [word]).withWords (next :: rest) =
              p.withWords (word :: next :: rest) := by
            simp [Progress.withWords]
          rw [hwords] at hrest
          rw [List.map_cons, List.map_cons, List.intercalate_cons_cons]
          exact h.reaches_word.separated (fun _ => step_space) hrest

/-- At the beginning of a line. -/
structure Fresh (p : Progress) : Prop extends Between p where
  words : p.words = []

/-- More complete commands. -/
def withCommands (p : Progress) (commands : List (List String)) : Progress :=
  { p with commands := p.commands ++ commands }

theorem Fresh.endCommand_eq (h : p.Fresh) : p.endCommand = p := by
  simp [endCommand, h.endWord_eq, h.words]

theorem Fresh.withCommands (h : p.Fresh) : (p.withCommands commands).Fresh :=
  ⟨⟨h.word, h.quoting⟩, h.words⟩

/-- An indented line of words is a command. -/
theorem Fresh.reaches_line (h : p.Fresh) (hne : words ≠ []) :
    p.Reaches endCommand ("  " ++ shellLine words).toList (p.withCommands [words]) := by
  obtain ⟨q, hread, hbare, hend⟩ := h.toBetween.reaches_words hne
  refine ⟨q, ?_, hbare, ?_⟩
  · have hindent : p.read [' ', ' '] = some p := by
      rw [read_cons, step_space h.quoting, Option.bind_some, h.endWord_eq, read_cons,
        step_space h.quoting, h.endWord_eq]
      rfl
    have htext : ("  " ++ shellLine words).toList =
        [' ', ' '] ++ [' '].intercalate (words.map fun w => shellWord w.toList) := by
      rw [String.toList_append, shellLine, String.toList_intercalate, List.map_map]
      simp [Function.comp_def]
    rw [htext, read_append, hindent, Option.bind_some, hread]
  · simp [endCommand, hend, Progress.withWords, Progress.withCommands, h.words, hne]

theorem Fresh.reaches_lines (h : p.Fresh) (hne : ∀ words ∈ commands, words ≠ []) :
    p.Reaches endCommand
      (['\n'].intercalate (commands.map fun words => ("  " ++ shellLine words).toList))
      (p.withCommands commands) := by
  induction commands generalizing p with
  | nil =>
      refine ⟨p, rfl, h.quoting, ?_⟩
      rw [h.endCommand_eq, Progress.withCommands, List.append_nil]
  | cons words rest ih =>
      obtain ⟨hwords, hrest⟩ := List.forall_mem_cons.mp hne
      cases rest with
      | nil => simpa using h.reaches_line hwords
      | cons next rest =>
          have hready : (p.withCommands [words]).Fresh := h.withCommands
          have hlines := ih hready hrest
          have hcommands : (p.withCommands [words]).withCommands (next :: rest) =
              p.withCommands (words :: next :: rest) := by
            simp [Progress.withCommands]
          rw [hcommands] at hlines
          rw [List.map_cons, List.map_cons, List.intercalate_cons_cons]
          exact (h.reaches_line hwords).separated (fun _ => step_newline) hlines

end Progress

/-- Indented lines of words are read as the commands of these words. -/
theorem commands?_lines {commands : List (List String)} (hne : ∀ words ∈ commands, words ≠ []) :
    commands? ("\n".intercalate (commands.map fun words => "  " ++ shellLine words)) =
      some commands := by
  have hstart : Progress.start.Fresh := ⟨⟨rfl, rfl⟩, rfl⟩
  obtain ⟨p, hread, hbare, hend⟩ := hstart.reaches_lines hne
  have htext : ("\n".intercalate (commands.map fun words => "  " ++ shellLine words)).toList =
      ['\n'].intercalate (commands.map fun words => ("  " ++ shellLine words).toList) := by
    rw [String.toList_intercalate, List.map_map]
    rfl
  rw [commands?, htext, hread, Option.bind_some, if_pos hbare, hend]
  rfl

end SwayControl.Text.Shell

namespace SwayControl

/-- Printed examples are read in a shell as one command each, in their order, whose words are the name of
the program and the arguments. -/
theorem examples_read_back (examples : List Example) :
    Text.Shell.commands? (exampleLines examples) = some (examples.map (programName :: ·)) := by
  have hne : ∀ words ∈ examples.map (programName :: ·), words ≠ [] := by
    intro words hwords
    obtain ⟨arguments, -, rfl⟩ := List.mem_map.mp hwords
    exact List.cons_ne_nil programName arguments
  have hlines := Text.Shell.commands?_lines hne
  rwa [List.map_map] at hlines

end SwayControl
