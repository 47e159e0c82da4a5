import SwayControl.Number.Reading
import SwayControl.Proofs.Builder.Totality
import SwayControl.Proofs.Grammar.Pieces

/-!
Key bindings read back from their text. The word of a binding, its ten flags and its key fill twelve slots
with a space between neighbours, and the command that the key is bound to stands behind them. As no slot
has a space in it, the first twelve spaces part the slots, whatever the command is. In the slot of the key
each name of a group and of a modifier is closed by a plus sign, so the last piece there is the key.
-/

namespace SwayControl

/-- A key combination by the name or by the code of its key. -/
inductive BoundKey where
  | sym (key : SymKey)
  | code (key : CodeKey)
deriving DecidableEq, Repr

/-- A key combination that is bound to a command, or unbound if there is none. -/
structure KeyBinding where
  key : BoundKey
  flags : BindFlags
  command : Option String
deriving DecidableEq, Repr

/-- The key combination without blanks. -/
def BoundKey.render : BoundKey → String
  | .sym key => key.render
  | .code key => key.render

/-- Whether no space is in the name of the key, and no plus sign. -/
def BoundKey.Separable : BoundKey → Prop
  | .sym key => Lacks ' ' key.key ∧ Lacks '+' key.key
  | .code _ => True

namespace KeyBinding

/-- The word that a binding starts with. -/
def word (b : KeyBinding) : String :=
  match b.key, b.command with
  | .sym _, some _ => "bindsym"
  | .code _, some _ => "bindcode"
  | .sym _, none => "unbindsym"
  | .code _, none => "unbindcode"

/-- A binding as a top-level command. -/
def topLevel : KeyBinding → TopLevel
  | ⟨.sym key, flags, some command⟩ => .bindsym key command flags
  | ⟨.code key, flags, some command⟩ => .bindcode key command flags
  | ⟨.sym key, flags, none⟩ => .unbindsym key flags
  | ⟨.code key, flags, none⟩ => .unbindcode key flags

/-- The forms of the top-level commands that bind and unbind keys. -/
def forms : List TopLevelForm := [.bindsym, .bindcode, .unbindsym, .unbindcode]

/-- The twelve slots in front of the command. -/
def slots (b : KeyBinding) : List String := [b.word] ++ b.flags.slots ++ [b.key.render]

/-- Whether no space is in the name of the device, if there is one, nor in the name of the key, and no plus
sign in the latter. -/
def Separable (b : KeyBinding) : Prop :=
  (∀ device ∈ b.flags.inputDevice, Lacks ' ' device) ∧ b.key.Separable

end KeyBinding

/-! ### Names in front of a key -/

/-- A name if a condition holds. -/
def nameIf (condition : Bool) (name : String) : List String := if condition then [name] else []

/-- Names, each closed by a plus sign. -/
def closed : List String → String
  | [] => ""
  | name :: rest => name ++ "+" ++ closed rest

/-- The name of a group, or none if there is no group. -/
def LayoutGroup.names : LayoutGroup → List String
  | .none => []
  | .group1 => ["Group1"]
  | .group2 => ["Group2"]
  | .group3 => ["Group3"]
  | .group4 => ["Group4"]

/-- The names of the modifiers that are held, in their order. -/
def Modifiers.names (m : Modifiers) : List String :=
  nameIf m.mod1 "Mod1" ++ nameIf m.mod2 "Mod2" ++ nameIf m.mod3 "Mod3" ++ nameIf m.mod4 "Mod4" ++
    nameIf m.shift "Shift" ++ nameIf m.control "Control"

/-- The group among some names. -/
def LayoutGroup.ofNames (names : List String) : LayoutGroup :=
  if "Group1" ∈ names then .group1
  else if "Group2" ∈ names then .group2
  else if "Group3" ∈ names then .group3
  else if "Group4" ∈ names then .group4
  else .none

/-- The modifiers among some names. -/
def Modifiers.ofNames (names : List String) : Modifiers :=
  ⟨"Mod1" ∈ names, "Mod2" ∈ names, "Mod3" ∈ names, "Mod4" ∈ names, "Shift" ∈ names, "Control" ∈ names⟩

/-- A key by name from its slot: the last piece is the key, the pieces in front name group and modifiers. -/
def SymKey.ofText? (t : String) : Option SymKey :=
  let pieces := piecesAt '+' t
  pieces.getLast?.map fun key =>
    ⟨key, Modifiers.ofNames pieces.dropLast, LayoutGroup.ofNames pieces.dropLast⟩

/-- A key by code from its slot. -/
def CodeKey.ofText? (t : String) : Option CodeKey :=
  let pieces := piecesAt '+' t
  (pieces.getLast?.bind fun piece => integer? piece.toList).map fun code =>
    ⟨code, Modifiers.ofNames pieces.dropLast⟩

theorem mem_nameIf {condition : Bool} {name other : String} :
    other ∈ nameIf condition name ↔ condition = true ∧ other = name := by
  cases condition <;> simp [nameIf]

theorem closed_append (names others : List String) :
    closed (names ++ others) = closed names ++ closed others := by
  induction names with
  | nil => simp [closed]
  | cons name rest ih => simp [closed, ih, String.append_assoc]

theorem closed_nameIf (condition : Bool) (name : String) :
    closed (nameIf condition name) = tokenIf condition (name ++ "+") := by
  cases condition <;> simp [closed, nameIf, tokenIf]

/-- Closing each name is joining the names and what follows them by plus signs. -/
theorem closed_append_eq_intercalate (names : List String) (key : String) :
    closed names ++ key = "+".intercalate (names ++ [key]) := by
  induction names with
  | nil => simp [closed]
  | cons name rest ih =>
      have hne : rest ++ [key] ≠ [] := List.append_ne_nil_of_right_ne_nil rest (List.cons_ne_nil key [])
      rw [closed, String.append_assoc, ih, List.cons_append, String.intercalate_cons_of_ne_nil hne]

theorem LayoutGroup.text_eq_closed (g : LayoutGroup) : Keyword.text g = closed g.names := by
  cases g <;> rfl

theorem Modifiers.render_eq_closed (m : Modifiers) : m.render = closed m.names := by
  simp only [names, closed_append, closed_nameIf]
  rfl

/-- What holds of all names of groups and modifiers holds of those in front of a key. -/
theorem forall_names {P : String → Prop} (h : ∀ name ∈ ["Group1", "Group2", "Group3", "Group4", "Mod1",
      "Mod2", "Mod3", "Mod4", "Shift", "Control"], P name) (g : LayoutGroup) (m : Modifiers) :
    ∀ name ∈ g.names ++ m.names, P name := by
  intro name hname
  apply h name
  rcases List.mem_append.mp hname with hname | hname
  · cases g <;> simp_all [LayoutGroup.names]
  · simp only [Modifiers.names, List.mem_append, mem_nameIf] at hname
    simp only [List.mem_cons]
    tauto

theorem ofNames_names (g : LayoutGroup) (m : Modifiers) :
    LayoutGroup.ofNames (g.names ++ m.names) = g ∧ Modifiers.ofNames (g.names ++ m.names) = m := by
  cases g <;> simp [LayoutGroup.ofNames, Modifiers.ofNames, LayoutGroup.names, Modifiers.names, mem_nameIf]

/-! ### The slot of the key -/

/-- The slot of a key falls into the names in front of it and the key. -/
theorem piecesAt_names (g : LayoutGroup) (m : Modifiers) {key : String} (hkey : Lacks '+' key) :
    piecesAt '+' (closed (g.names ++ m.names) ++ key) = g.names ++ m.names ++ [key] := by
  rw [closed_append_eq_intercalate]
  apply piecesAt_intercalate (by decide) (List.append_ne_nil_of_right_ne_nil _ (List.cons_ne_nil key []))
  exact lacksEach_append.mpr ⟨forall_names (by decide) g m, lacksEach_singleton.mpr hkey⟩

/-- The slot of a key has no space if the key has none. -/
theorem lacks_names (g : LayoutGroup) (m : Modifiers) {key : String} (hkey : Lacks ' ' key) :
    Lacks ' ' (closed (g.names ++ m.names) ++ key) := by
  rw [closed_append_eq_intercalate]
  apply lacks_intercalate (by decide)
  exact lacksEach_append.mpr ⟨forall_names (by decide) g m, lacksEach_singleton.mpr hkey⟩

theorem SymKey.render_eq (k : SymKey) :
    k.render = closed (k.group.names ++ k.modifiers.names) ++ k.key := by
  rw [SymKey.render, LayoutGroup.text_eq_closed, Modifiers.render_eq_closed, closed_append]

theorem CodeKey.render_eq (k : CodeKey) :
    k.render = closed (LayoutGroup.none.names ++ k.modifiers.names) ++ toString k.code := by
  rw [CodeKey.render, Modifiers.render_eq_closed, closed_append]
  rfl

theorem SymKey.ofText?_render {k : SymKey} (h : Lacks '+' k.key) : SymKey.ofText? k.render = some k := by
  obtain ⟨hgroup, hmodifiers⟩ := ofNames_names k.group k.modifiers
  simp only [SymKey.ofText?, SymKey.render_eq, piecesAt_names _ _ h, List.getLast?_concat,
    List.dropLast_concat, Option.map_some, hgroup, hmodifiers]

theorem all_isDigit_toDigits (n : Nat) : (Nat.toDigits 10 n).all isDigit = true := by
  refine List.all_eq_true.mpr fun c hc => ?_
  have hdigit := Nat.isDigit_of_mem_toDigits (by decide) (by decide) hc
  obtain ⟨hlow, hhigh⟩ := Char.isDigit_iff_toNat.mp hdigit
  simp only [isDigit, Bool.and_eq_true, decide_eq_true_eq, Char.le_def, UInt32.le_iff_toNat_le]
  exact ⟨hlow, hhigh⟩

/-- No sign is split from digits. -/
theorem splitSign_of_digits {digits : List Char} (h : digits.all isDigit = true) :
    splitSign digits = (false, digits) := by
  unfold splitSign
  split
  · exact absurd h (by simp [isDigit])
  · exact absurd h (by simp [isDigit])
  · rfl

/-- A number is read from its digits and a sign. -/
theorem integer?_of_split {text : List Char} {negative : Bool} {n : Nat}
    (h : splitSign text = (negative, Nat.toDigits 10 n)) :
    integer? text = some (if negative then -(n : Int) else n) := by
  have hsome : (Nat.toDigits 10 n).isEmpty = false := List.isEmpty_eq_false_iff.mpr Nat.toDigits_ne_nil
  have hvalue : digitsValue (Nat.toDigits 10 n) = n := Nat.ofDigitChars_ten_toDigits
  unfold integer?
  rw [h]
  simp [hsome, all_isDigit_toDigits, hvalue]

/-- An integer is read from how it is written. -/
theorem integer?_toString (n : Int) : integer? (toString n).toList = some n := by
  cases n with
  | ofNat n =>
      have hdigits : (toString (Int.ofNat n)).toList = Nat.toDigits 10 n := Nat.toList_repr
      rw [hdigits]
      exact integer?_of_split (splitSign_of_digits (all_isDigit_toDigits n))
  | negSucc n =>
      have hdigits : (toString (Int.negSucc n)).toList = '-' :: Nat.toDigits 10 (n + 1) :=
        String.toList_append.trans (congrArg _ Nat.toList_repr)
      have hsplit : splitSign ('-' :: Nat.toDigits 10 (n + 1)) = (true, Nat.toDigits 10 (n + 1)) := rfl
      rw [hdigits]
      exact integer?_of_split hsplit

/-- A code is an integer of any size, and no plus sign is written with it. -/
theorem CodeKey.ofText?_render (k : CodeKey) : CodeKey.ofText? k.render = some k := by
  have hcode : Lacks '+' (toString k.code) := (writtenWith_integer k.code).lacks (by decide)
  obtain ⟨-, hmodifiers⟩ := ofNames_names .none k.modifiers
  simp only [CodeKey.ofText?, CodeKey.render_eq, piecesAt_names _ _ hcode, List.getLast?_concat,
    List.dropLast_concat, Option.bind_some, integer?_toString, Option.map_some, hmodifiers]

/-- No space is in the slot of a key whose name has none. -/
theorem BoundKey.lacks_render {k : BoundKey} (h : k.Separable) : Lacks ' ' k.render := by
  cases k with
  | sym key =>
      rw [BoundKey.render, SymKey.render_eq]
      exact lacks_names _ _ h.1
  | code key =>
      rw [BoundKey.render, CodeKey.render_eq]
      exact lacks_names _ _ ((writtenWith_integer key.code).lacks (by decide))

/-! ### All slots -/

/-- The binding options from their ten slots. -/
def BindFlags.ofSlots? : List String → Option BindFlags
  | [wholeWindow, border, excludeTitleBar, release, locked, toCode, inputDevice, noWarn, noRepeat,
      inhibited] =>
    return ⟨← flagOf? "--whole-window" wholeWindow, ← flagOf? "--border" border,
      ← flagOf? "--exclude-title-bar" excludeTitleBar, ← flagOf? "--release" release,
      ← flagOf? "--locked" locked, ← flagOf? "--to-code" toCode,
      ← slotOf? (behindMark? "--input-device=") inputDevice, ← flagOf? "--no-warn" noWarn,
      ← flagOf? "--no-repeat" noRepeat, ← flagOf? "--inhibited" inhibited⟩
  | _ => none

theorem BindFlags.ofSlots?_slots (f : BindFlags) : BindFlags.ofSlots? f.slots = some f := by
  have hdevice : slotOf? (behindMark? "--input-device=")
      (f.inputDevice.elim "" ("--input-device=" ++ ·)) = some f.inputDevice := by
    refine slotOf?_elim_self (fun device => ⟨fun hempty => ?_, behindMark?_append _ device⟩) _
    exact absurd (String.append_eq_empty_iff.mp hempty).1 (by decide)
  simp (disch := decide) only [BindFlags.slots, BindFlags.ofSlots?, flagOf?_tokenIf, hdevice]
  rfl

namespace KeyBinding

/-- A binding from its slots, with the command behind them if there is one. The word says whether the key
is given by its name or by its code. -/
def ofPieces? : List String → Option KeyBinding
  | [] => none
  | word :: rest => do
    let flags ← BindFlags.ofSlots? (rest.take 10)
    let slot ← rest[10]?
    let key ← if word ∈ ["bindsym", "unbindsym"] then .sym <$> SymKey.ofText? slot
      else .code <$> CodeKey.ofText? slot
    return ⟨key, flags, rest[11]?⟩

variable {b b' : KeyBinding}

theorem render_topLevel (b : KeyBinding) : b.topLevel.render = spaced (b.slots ++ b.command.toList) := by
  obtain ⟨_ | _, flags, _ | _⟩ := b <;> rfl

theorem lacksEach_slots (h : b.Separable) : LacksEach ' ' b.slots := by
  have htokens : ∀ token ∈ BindFlags.tokens, Lacks ' ' token := by decide
  have hword : Lacks ' ' b.word := by
    obtain ⟨_ | _, flags, _ | _⟩ := b <;> (simp only [word]; decide)
  have hflags : LacksEach ' ' b.flags.slots :=
    b.flags.forall_slots lacks_empty htokens fun device hdevice =>
      lacks_append.mpr ⟨by decide, h.1 device hdevice⟩
  exact lacksEach_append.mpr ⟨lacksEach_append.mpr ⟨lacksEach_singleton.mpr hword, hflags⟩,
    lacksEach_singleton.mpr (BoundKey.lacks_render h.2)⟩

/-- The first twelve spaces part the slots and the command, which may have spaces itself. -/
theorem firstPieces_render (h : b.Separable) :
    firstPieces ' ' 12 b.topLevel.render = b.slots ++ b.command.toList := by
  have hslots := lacksEach_slots h
  rw [render_topLevel]
  cases b.command with
  | none =>
      rw [Option.toList_none, List.append_nil]
      exact firstPieces_intercalate (by decide) (List.cons_ne_nil _ _) hslots le_rfl
  | some command => exact firstPieces_concat (by decide) hslots

/-- The word says which reader of keys gives the key again. -/
theorem readKey_render (h : b.key.Separable) :
    (if b.word ∈ ["bindsym", "unbindsym"] then BoundKey.sym <$> SymKey.ofText? b.key.render
      else BoundKey.code <$> CodeKey.ofText? b.key.render) = some b.key := by
  obtain ⟨key, flags, command⟩ := b
  cases key with
  | sym key =>
      have hword : word ⟨.sym key, flags, command⟩ ∈ ["bindsym", "unbindsym"] := by
        cases command <;> simp [word]
      rw [if_pos hword, BoundKey.render, SymKey.ofText?_render h.2]
      rfl
  | code key =>
      have hword : word ⟨.code key, flags, command⟩ ∉ ["bindsym", "unbindsym"] := by
        cases command <;> simp [word]
      rw [if_neg hword, BoundKey.render, CodeKey.ofText?_render]
      rfl

theorem ofPieces?_slots (h : b.Separable) : ofPieces? (b.slots ++ b.command.toList) = some b := by
  let rest := b.flags.slots ++ [b.key.render] ++ b.command.toList
  have hflags : rest.take 10 = b.flags.slots := rfl
  have hslot : rest[10]? = some b.key.render := rfl
  have hcommand : rest[11]? = b.command := by
    obtain ⟨key, flags, _ | command⟩ := b <;> rfl
  change ofPieces? (b.word :: rest) = _
  have hkey := readKey_render h.2
  simp only [ofPieces?, hflags, BindFlags.ofSlots?_slots, hslot, Option.bind_eq_bind, Option.bind_some,
    hcommand]
  split_ifs at hkey ⊢ <;> (rw [hkey]; rfl)

/-- What is read from a record that binds or unbinds a key is a binding. -/
theorem exists_topLevel {c : TopLevel} (h : c.form ∈ forms) : ∃ b : KeyBinding, b.topLevel = c := by
  cases c with
  | bindsym key command flags => exact ⟨⟨.sym key, flags, some command⟩, rfl⟩
  | bindcode key command flags => exact ⟨⟨.code key, flags, some command⟩, rfl⟩
  | unbindsym key flags => exact ⟨⟨.sym key, flags, none⟩, rfl⟩
  | unbindcode key flags => exact ⟨⟨.code key, flags, none⟩, rfl⟩
  | _ => simp [forms, TopLevel.form] at h

/-- Every well-typed record that binds or unbinds a key is read as a binding and written as it. -/
theorem of_wellTyped {s : Store} {form : TopLevelForm} {fields : List Value} (hform : form ∈ forms)
    (h : s.WellTyped (.record (.topLevel form) fields)) :
    ∃ b : KeyBinding, b.topLevel.form = form ∧
      (Value.record (.topLevel form) fields).readTopLevel s.texts = .ok b.topLevel ∧
      (Value.record (.topLevel form) fields).commandText s.texts = .ok b.topLevel.render := by
  have hentry : (Value.record (.topLevel form) fields).IsEntry := Or.inr (Or.inr (Or.inl ⟨form, fields, rfl⟩))
  obtain ⟨text, hrendered⟩ := h.entry_rendered hentry
  have htext := hrendered.commandText hentry
  cases hrendered with
  | topLevel hread hc =>
      obtain ⟨b, rfl⟩ := exists_topLevel (hc.symm ▸ hform)
      exact ⟨b, hc, hread, htext⟩

end KeyBinding

/-- Key bindings are read back from their fixed slots. Where no space is in the name of the device and in
the name of the key, and no plus sign in the latter, the first twelve spaces part the word, the ten flags,
the key and the command, and these pieces give the binding again, an absent device told apart from an empty
one. So two such bindings of one text are the same. All records that bind or unbind keys are written as
such bindings. -/
theorem keyBindings_read_back :
    (∀ b : KeyBinding, b.Separable →
      firstPieces ' ' 12 b.topLevel.render = b.slots ++ b.command.toList ∧
        KeyBinding.ofPieces? (firstPieces ' ' 12 b.topLevel.render) = some b) ∧
    (∀ b b' : KeyBinding, b.Separable → b'.Separable →
      b.topLevel.render = b'.topLevel.render → b = b') ∧
    ∀ (s : Store) (form : TopLevelForm) (fields : List Value), form ∈ KeyBinding.forms →
      s.WellTyped (.record (.topLevel form) fields) →
        ∃ b : KeyBinding, b.topLevel.form = form ∧
          (Value.record (.topLevel form) fields).readTopLevel s.texts = .ok b.topLevel ∧
          (Value.record (.topLevel form) fields).commandText s.texts = .ok b.topLevel.render := by
  have hread (b : KeyBinding) (h : b.Separable) :
      KeyBinding.ofPieces? (firstPieces ' ' 12 b.topLevel.render) = some b := by
    rw [KeyBinding.firstPieces_render h, KeyBinding.ofPieces?_slots h]
  refine ⟨fun b h => ⟨KeyBinding.firstPieces_render h, hread b h⟩, fun b b' h h' htext => ?_,
    fun s form fields hform h => KeyBinding.of_wellTyped hform h⟩
  have hsame := hread b h
  rw [htext, hread b' h'] at hsame
  exact (Option.some.inj hsame).symm

/-- A binding that runs a command with spaces and a plus sign, for one device or for all. -/
def menuBinding (device : Option String) : KeyBinding :=
  ⟨.sym ⟨"Return", ⟨false, false, false, true, true, false⟩, .group2⟩,
    ⟨false, false, false, false, true, false, device, false, false, false⟩, some "exec menu  -n +1"⟩

theorem menuBinding_separable (device : Option String) (h : ∀ name ∈ device, Lacks ' ' name) :
    (menuBinding device).Separable :=
  ⟨h, by decide, by decide⟩

/-- The fields of a record that unbinds a key by a code below zero. -/
def unboundCode : List Value := [.record (.binding .codeKey) [.int (-38), noModifiers], noBindFlags]

theorem unboundCode_wellTyped (s : Store) : s.WellTyped (.record (.topLevel .unbindcode) unboundCode) := by
  obtain ⟨hmodifiers, hflags, -⟩ := @Form.typed_defaults s.TypedBuilder
  have hkey : (Value.record (.binding .codeKey) [.int (-38), noModifiers]).Typed s.TypedBuilder :=
    Value.typed_record (.cons ⟨_, rfl⟩ (.cons ⟨_, List.mem_singleton_self _, _, rfl⟩ .nil)) rfl
      (List.forall_mem_cons.mpr ⟨trivial, List.forall_mem_singleton.mpr hmodifiers⟩)
  exact Value.typed_record
    (.cons ⟨_, List.mem_singleton_self _, _, rfl⟩ (.cons ⟨_, List.mem_singleton_self _, _, rfl⟩ .nil)) rfl
    (List.forall_mem_cons.mpr ⟨hkey, List.forall_mem_singleton.mpr hflags⟩)

/-- A device of empty name is told apart from no device, and the command keeps its two spaces. -/
theorem keyBindings_read_back_menu :
    (menuBinding (some "")).topLevel.render =
      "bindsym     --locked  --input-device=    Group2+Mod4+Shift+Return exec menu  -n +1" ∧
    KeyBinding.ofPieces? (firstPieces ' ' 12 (menuBinding (some "")).topLevel.render) =
      some (menuBinding (some "")) ∧
    (menuBinding (some "")).topLevel.render ≠ (menuBinding none).topLevel.render ∧
    ∃ b : KeyBinding, b.topLevel.form = .unbindcode ∧
      (Value.record (.topLevel .unbindcode) unboundCode).commandText Store.empty.texts =
        .ok b.topLevel.render := by
  obtain ⟨hpieces, hsame, hvalues⟩ := keyBindings_read_back
  have hempty := menuBinding_separable (some "") (by decide)
  have hnone := menuBinding_separable none (by decide)
  refine ⟨by decide +kernel, (hpieces _ hempty).2, fun htext => ?_, ?_⟩
  · exact absurd (hsame _ _ hempty hnone htext) (by decide)
  · obtain ⟨b, hform, -, htext⟩ :=
      hvalues Store.empty .unbindcode unboundCode (by decide) (unboundCode_wellTyped Store.empty)
    exact ⟨b, hform, htext⟩

end SwayControl
