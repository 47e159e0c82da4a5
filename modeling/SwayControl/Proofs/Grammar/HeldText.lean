import SwayControl.Proofs.Grammar.Delimiter

/-!
The texts that a command of the grammar holds: names, marks, titles, lines for other programs, and any
argument given as text. A delimiter in a rendered command comes from one of them, as the grammar puts
none itself; only a font puts commas, between its families and between its variations.
-/

namespace SwayControl

/-- The texts an argument holds. -/
def Argument.heldTexts : Argument → List String
  | .word text => [text]
  | .output name => [name]
  | .workspace w => [w.name]
  | .workspaceNumber inner => inner.heldTexts
  | _ => []

/-- The texts that an argument holds if there is one. -/
def Argument.heldOptional (argument : Option Argument) : List String :=
  argument.elim [] Argument.heldTexts

/-- The texts a criterion holds. -/
def Criterion.heldTexts : Criterion → List String
  | .property _ value => value.heldTexts
  | _ => []

/-- The texts a border style holds. -/
def BorderStyle.heldTexts (style : BorderStyle) : List String := Argument.heldOptional style.thickness

/-- The texts that say what to focus. -/
def FocusTarget.heldTexts : FocusTarget → List String
  | .output name => name.heldTexts
  | .place target => target.heldTexts
  | .cycle .. => []

/-- The texts that say which layout to take. -/
def LayoutTarget.heldTexts : LayoutTarget → List String
  | .toggle => []
  | .toggleOver cycle => cycle.heldTexts
  | .toggleAmong options => options.flatMap Argument.heldTexts
  | .mode name => name.heldTexts

/-- The texts that say where to move. -/
def MoveTarget.heldTexts : MoveTarget → List String
  | .position x y => x.heldTexts ++ y.heldTexts
  | .toMark mark => [mark]
  | .toWorkspace workspace _ => workspace.heldTexts
  | .containerToOutput output => output.heldTexts
  | .workspaceToOutput output => output.heldTexts
  | .place target => target.heldTexts
  | _ => []

/-- The texts that say how to resize. -/
def Resize.heldTexts : Resize → List String
  | .by _ _ amount => amount.heldTexts
  | .width size => Argument.heldOptional size
  | .height size => size.heldTexts
  | .both across down => across.heldTexts ++ down.heldTexts

/-- The texts a sub-command holds. -/
def SubCommand.heldTexts : SubCommand → List String
  | .border style => style.heldTexts
  | .focus target => target.heldTexts
  | .layout target => target.heldTexts
  | .mark identifier _ => [identifier]
  | .move target => target.heldTexts
  | .nop comment => Argument.heldOptional comment
  | .renameWorkspace newName oldName => newName :: oldName.toList
  | .resize change => change.heldTexts
  | .swap _ value => [value]
  | .titleFormat format => [format]
  | .unmark identifier => Argument.heldOptional identifier
  | _ => []

/-- The texts a font holds. -/
def Font.heldTexts (f : Font) : List String :=
  f.description.families ++
    ([f.description.options.style, f.description.options.variant, f.description.options.weight,
      f.description.options.stretch, f.description.options.gravity].flatMap Argument.heldOptional ++
    f.description.variations.flatMap fun v => [v.axis, v.value])

/-- The texts a set of colours holds. -/
def ClientColors.heldTexts (c : ClientColors) : List String :=
  c.border.heldTexts ++ (c.background.heldTexts ++ (c.text.heldTexts ++
    (Argument.heldOptional c.indicator ++ Argument.heldOptional c.childBorder)))

/-- The texts a top-level command holds, the texts of its clause and of its command with them. -/
def TopLevel.heldTexts : TopLevel → List String
  | .assignToWorkspace clause target | .assignToOutput clause target => clause :: target.heldTexts
  | .bindsym key command flags => key.key :: command :: flags.inputDevice.toList
  | .bindcode _ command flags => command :: flags.inputDevice.toList
  | .bindswitch _ _ command _ => [command]
  | .clientBackground color => color.heldTexts
  | .clientColors colors => colors.heldTexts
  | .defaultBorder style | .defaultFloatingBorder style => style.heldTexts
  | .exec line | .execAlways line | .mode line | .noFocus line => [line]
  | .floatingModifier modifier _ => Argument.heldOptional modifier
  | .font spec => spec.heldTexts
  | .titlebarPadding _ vertical => Argument.heldOptional vertical
  | .forWindow clause command => [clause, command]
  | .input name settings | .seat name settings | .output name settings =>
    name :: settings.flatMap Argument.heldTexts
  | .defineMode name commands _ => name :: commands.flatMap Argument.heldTexts
  | .setVariable name value => [name, value]
  | .unbindsym key flags => key.key :: flags.inputDevice.toList
  | .unbindcode _ flags => flags.inputDevice.toList
  | .workspace target | .workspaceGaps target _ _ => target.heldTexts
  | .workspaceOutputs target outputs =>
    target.heldTexts ++ outputs.flatMap Argument.heldTexts
  | _ => []

/-- The texts a configuration line holds. -/
def ConfigLine.heldTexts : ConfigLine → List String
  | .bar identifier subcommands =>
    Argument.heldOptional identifier ++ subcommands.flatMap Argument.heldTexts
  | .includeFile line | .swaybgCommand line | .swaynagCommand line => [line]
  | _ => []

/-- Whether a character occurs in none of some texts. -/
def LacksEach (d : Char) (texts : List String) : Prop := ∀ t ∈ texts, Lacks d t

section

variable {d : Char} {s t : String} {texts texts' : List String}

@[simp] theorem lacksEach_nil : LacksEach d [] := fun _ h => by cases h

@[simp] theorem lacksEach_cons : LacksEach d (t :: texts) ↔ Lacks d t ∧ LacksEach d texts :=
  List.forall_mem_cons

theorem lacksEach_singleton : LacksEach d [t] ↔ Lacks d t := by simp

@[simp] theorem lacksEach_append :
    LacksEach d (texts ++ texts') ↔ LacksEach d texts ∧ LacksEach d texts' :=
  List.forall_mem_append

theorem lacksEach_flatMap {α : Type} {f : α → List String} {items : List α} :
    LacksEach d (items.flatMap f) ↔ ∀ a ∈ items, LacksEach d (f a) := by
  constructor
  · intro h a ha t ht
    exact h t (List.mem_flatMap.mpr ⟨a, ha, ht⟩)
  · intro h t ht
    obtain ⟨a, ha, ht⟩ := List.mem_flatMap.mp ht
    exact h a ha t ht

end

/-- The tokens of binding options, each for a slot of its own. The device is no token. -/
def BindFlags.tokens : List String :=
  ["--whole-window", "--border", "--exclude-title-bar", "--release", "--locked", "--to-code", "--no-warn",
    "--no-repeat", "--inhibited"]

/-- A slot of binding options is empty, or it holds a token or the device. -/
theorem BindFlags.forall_slots {P : String → Prop} (flags : BindFlags) (hempty : P "")
    (htokens : ∀ token ∈ BindFlags.tokens, P token)
    (hdevice : ∀ device, flags.inputDevice = some device → P ("--input-device=" ++ device)) :
    ∀ slot ∈ flags.slots, P slot := by
  have hflag (on : Bool) {token : String} (htoken : token ∈ BindFlags.tokens) :
      P (tokenIf on token) := by
    cases on with
    | true => exact htokens token htoken
    | false => exact hempty
  have hslot : P (flags.inputDevice.elim "" ("--input-device=" ++ ·)) := by
    cases h : flags.inputDevice with
    | none => exact hempty
    | some device => exact hdevice device h
  exact List.forall_iff_forall_mem.mp ⟨hflag _ (by decide), hflag _ (by decide), hflag _ (by decide),
    hflag _ (by decide), hflag _ (by decide), hflag _ (by decide), hslot, hflag _ (by decide),
    hflag _ (by decide), hflag _ (by decide)⟩

/-- A character is in a variation only if it is in its axis, in its value, or one of the marks around the
axis. -/
theorem FontVariation.lacks_render {d : Char} {v : FontVariation} (hopen : Lacks d "\x60")
    (hclose : Lacks d "\x60=") (haxis : Lacks d v.axis) (hvalue : Lacks d v.value) : Lacks d v.render :=
  lacks_append.mpr ⟨lacks_append.mpr ⟨lacks_append.mpr ⟨hopen, haxis⟩, hclose⟩, hvalue⟩

section Rendering

variable {d : Char} (hd : d ∈ delimiters)

include hd

namespace Argument

theorem lacks_render : ∀ a : Argument, LacksEach d a.heldTexts → Lacks d a.render
  | .focused, _ => lacks_of_plain hd (by decide)
  | .word text, h => h text List.mem_cons_self
  | .flag on, _ => by cases on <;> exact lacks_of_plain hd (by decide)
  | .number n, _ => n.lacks_render hd
  | .color c, _ => c.lacks_render hd
  | .length l, _ => by
      have hamount := l.amount.lacks_render hd
      simp only [render, Length.render]
      cases l.unit with
      | none => exact hamount
      | some unit => exact lacks_spaced hd ⟨hamount, lacks_keyword hd unit⟩
  | .output name, h => h name List.mem_cons_self
  | .workspace w, h => by
      have hname : Lacks d w.name := h w.name List.mem_cons_self
      simp only [render, WorkspaceName.render]
      cases w.number with
      | none => exact hname
      | some number =>
          have hcolon : Lacks d ":" := lacks_of_plain hd (by decide)
          exact lacks_append.mpr ⟨lacks_append.mpr ⟨lacks_integer hd number, hcolon⟩, hname⟩
  | .workspaceNumber inner, h =>
      lacks_append.mpr ⟨lacks_of_plain hd (by decide), lacks_render inner h⟩

theorem lacks_renderOptional {a : Option Argument} (h : LacksEach d (heldOptional a)) :
    Lacks d (renderOptional a) := by
  cases a with
  | none => exact lacks_empty
  | some a => exact a.lacks_render hd h

theorem lacks_separated {arguments : List Argument}
    (h : LacksEach d (arguments.flatMap heldTexts)) : Lacks d (separated " " arguments) := by
  apply lacks_intercalate (lacks_space hd)
  intro t ht
  obtain ⟨a, ha, rfl⟩ := List.mem_map.mp ht
  exact a.lacks_render hd (lacksEach_flatMap.mp h a ha)

end Argument

theorem Criterion.lacks_render (c : Criterion) (h : LacksEach d c.heldTexts) :
    Lacks d c.render := by
  cases c with
  | floating | tiling => exact lacks_of_plain hd (by decide)
  | property key value =>
      have hkey : Lacks d key.text := by cases key <;> exact lacks_of_plain hd (by decide)
      have hvalue := value.lacks_render hd h
      have hquote : Lacks d "\"" := lacks_of_plain hd (by decide)
      have hequals : Lacks d "=\"" := lacks_of_plain hd (by decide)
      exact lacks_append.mpr
        ⟨lacks_append.mpr ⟨lacks_append.mpr ⟨hkey, hequals⟩, hvalue⟩, hquote⟩

theorem BorderStyle.lacks_render (style : BorderStyle) (h : LacksEach d style.heldTexts) :
    Lacks d style.render := by
  have hkind := lacks_keyword hd style.kind
  unfold BorderStyle.render
  split
  · exact lacks_spaced hd ⟨hkind, Argument.lacks_renderOptional hd h⟩
  · exact lacks_spaced hd ⟨hkind, Argument.lacks_renderOptional hd h⟩
  · exact hkind

theorem FocusTarget.lacks_render (target : FocusTarget) (h : LacksEach d target.heldTexts) :
    Lacks d target.render := by
  cases target with
  | cycle direction sibling =>
      have hsibling := lacks_tokenIf sibling (t := "sibling") (lacks_of_plain hd (by decide))
      exact lacks_spaced hd ⟨lacks_keyword hd direction, hsibling⟩
  | output name => exact lacks_spaced hd ⟨lacks_of_plain hd (by decide), name.lacks_render hd h⟩
  | place target => exact target.lacks_render hd h

theorem LayoutTarget.lacks_render (target : LayoutTarget) (h : LacksEach d target.heldTexts) :
    Lacks d target.render := by
  have htoggle : Lacks d "toggle" := lacks_of_plain hd (by decide)
  cases target with
  | toggle => exact lacks_spaced hd ⟨htoggle, lacks_empty⟩
  | toggleOver cycle => exact lacks_spaced hd ⟨htoggle, cycle.lacks_render hd h⟩
  | toggleAmong options => exact lacks_spaced hd ⟨htoggle, Argument.lacks_separated hd h⟩
  | mode name => exact name.lacks_render hd h

theorem MoveTarget.lacks_render (target : MoveTarget) (h : LacksEach d target.heldTexts) :
    Lacks d target.render := by
  have hpixels : Lacks d "px" := lacks_of_plain hd (by decide)
  cases target with
  | direction way pixels =>
      exact lacks_spaced hd ⟨lacks_keyword hd way, lacks_integer hd pixels, hpixels⟩
  | position x y =>
      obtain ⟨hx, hy⟩ := lacksEach_append.mp h
      exact lacks_spaced hd
        ⟨lacks_of_plain hd (by decide), x.lacks_render hd hx, y.lacks_render hd hy⟩
  | absolutePosition x y =>
      exact lacks_spaced hd
        ⟨lacks_of_plain hd (by decide), lacks_integer hd x, hpixels, lacks_integer hd y, hpixels⟩
  | toMark mark =>
      exact lacks_spaced hd ⟨lacks_of_plain hd (by decide), h mark List.mem_cons_self⟩
  | toWorkspace workspace noAutoBackAndForth =>
      have hflag := lacks_tokenIf noAutoBackAndForth (t := "--no-auto-back-and-forth ")
        (lacks_of_plain hd (by decide))
      have hplace : Lacks d (spaced ["container to workspace", workspace.render]) :=
        lacks_spaced hd ⟨lacks_of_plain hd (by decide), workspace.lacks_render hd h⟩
      exact lacks_append.mpr ⟨hflag, hplace⟩
  | containerToOutput output | workspaceToOutput output =>
      exact lacks_spaced hd ⟨lacks_of_plain hd (by decide), output.lacks_render hd h⟩
  | place target => exact target.lacks_render hd h

theorem Resize.lacks_render (change : Resize) (h : LacksEach d change.heldTexts) :
    Lacks d change.render := by
  cases change with
  | «by» action dimension amount =>
      exact lacks_spaced hd
        ⟨lacks_keyword hd action, lacks_keyword hd dimension, amount.lacks_render hd h⟩
  | width size =>
      exact lacks_spaced hd ⟨lacks_of_plain hd (by decide), Argument.lacks_renderOptional hd h⟩
  | height size => exact lacks_spaced hd ⟨lacks_of_plain hd (by decide), size.lacks_render hd h⟩
  | both across down =>
      obtain ⟨hacross, hdown⟩ := lacksEach_append.mp h
      exact lacks_spaced hd ⟨lacks_of_plain hd (by decide), across.lacks_render hd hacross,
        lacks_of_plain hd (by decide), down.lacks_render hd hdown⟩

/-- A sub-command has a delimiter only if a text that it holds has it. -/
theorem SubCommand.lacks_render (c : SubCommand) (h : LacksEach d c.heldTexts) :
    Lacks d c.render := by
  have hword {t : String} (ht : Plain t) : Lacks d t := lacks_of_plain hd ht
  cases c with
  | exit | kill | reload | scratchpadShow => exact hword (by decide)
  | border style => exact lacks_spaced hd ⟨hword (by decide), style.lacks_render hd h⟩
  | focus target => exact lacks_spaced hd ⟨hword (by decide), target.lacks_render hd h⟩
  | layout target => exact lacks_spaced hd ⟨hword (by decide), target.lacks_render hd h⟩
  | move target => exact lacks_spaced hd ⟨hword (by decide), target.lacks_render hd h⟩
  | resize change => exact lacks_spaced hd ⟨hword (by decide), change.lacks_render hd h⟩
  | floating word | inhibitIdle word | shortcutsInhibitor word | split word | sticky word
  | urgentHint word => exact lacks_spaced hd ⟨hword (by decide), lacks_keyword hd word⟩
  | nop argument | unmark argument =>
      exact lacks_spaced hd ⟨hword (by decide), Argument.lacks_renderOptional hd h⟩
  | fullscreen state everyOutput =>
      have hglobal := lacks_tokenIf everyOutput (t := "global") (hword (by decide))
      exact lacks_spaced hd ⟨hword (by decide), lacks_keyword hd state, hglobal⟩
  | gaps side scope change amount =>
      exact lacks_spaced hd ⟨hword (by decide), lacks_keyword hd side, lacks_keyword hd scope,
        lacks_keyword hd change, lacks_integer hd amount⟩
  | mark identifier mode =>
      exact lacks_spaced hd
        ⟨hword (by decide), lacks_keyword hd mode, h identifier List.mem_cons_self⟩
  | maxRenderTime milliseconds =>
      have hlimit : Lacks d (milliseconds.elim "off" toString) := by
        cases milliseconds with
        | none => exact hword (by decide)
        | some n => exact lacks_integer hd n
      exact lacks_spaced hd ⟨hword (by decide), hlimit⟩
  | opacity change value =>
      exact lacks_spaced hd
        ⟨hword (by decide), lacks_keyword hd change, value.lacks_render hd⟩
  | renameWorkspace newName oldName =>
      obtain ⟨hnew, hold⟩ := lacksEach_cons.mp h
      cases oldName with
      | none => exact lacks_spaced hd ⟨hword (by decide), hnew⟩
      | some oldName =>
          exact lacks_spaced hd
            ⟨hword (by decide), hold oldName List.mem_cons_self, hword (by decide), hnew⟩
  | swap kind value =>
      exact lacks_spaced hd ⟨hword (by decide), lacks_keyword hd kind, h value List.mem_cons_self⟩
  | titleFormat format =>
      exact lacks_spaced hd ⟨hword (by decide), h format List.mem_cons_self⟩

theorem BindFlags.lacks_slots (flags : BindFlags) (h : LacksEach d flags.inputDevice.toList) :
    LacksEach d flags.slots := by
  have htokens : ∀ token ∈ BindFlags.tokens, Plain token := by decide
  refine flags.forall_slots lacks_empty (fun token ht => lacks_of_plain hd (htokens token ht)) ?_
  intro device hdevice
  rw [hdevice] at h
  exact lacks_append.mpr ⟨lacks_of_plain hd (by decide), h device List.mem_cons_self⟩

theorem SwitchFlags.lacks_render (flags : SwitchFlags) : Lacks d flags.render := by
  have hflag (on : Bool) {t : String} (ht : Plain t) :
      Lacks d (tokenIf on t) := lacks_tokenIf on (lacks_of_plain hd ht)
  exact lacks_spaced hd ⟨hflag _ (by decide), hflag _ (by decide), hflag _ (by decide)⟩

theorem Modifiers.lacks_render (m : Modifiers) : Lacks d m.render := by
  have hflag (on : Bool) {t : String} (ht : Plain t) :
      Lacks d (tokenIf on t) := lacks_tokenIf on (lacks_of_plain hd ht)
  simp only [Modifiers.render, lacks_append]
  exact ⟨⟨⟨⟨⟨hflag _ (by decide), hflag _ (by decide)⟩, hflag _ (by decide)⟩,
    hflag _ (by decide)⟩, hflag _ (by decide)⟩, hflag _ (by decide)⟩

theorem lacks_switchEvent (switch : SwitchKind) (state : SwitchState) :
    Lacks d (switchEvent switch state) :=
  lacks_append.mpr ⟨lacks_append.mpr ⟨lacks_keyword hd switch, lacks_of_plain hd (by decide)⟩,
    lacks_keyword hd state⟩

theorem ClientColors.lacks_render (c : ClientColors) (h : LacksEach d c.heldTexts) :
    Lacks d c.render := by
  simp only [ClientColors.heldTexts, lacksEach_append] at h
  obtain ⟨hborder, hbackground, htext, hindicator, hchild⟩ := h
  have hlast : Lacks d (if c.indicator.isSome then Argument.renderOptional c.childBorder else "") :=
    lacks_tokenIf c.indicator.isSome (Argument.lacks_renderOptional hd hchild)
  exact lacks_spaced hd ⟨lacks_keyword hd c.state, c.border.lacks_render hd hborder,
    c.background.lacks_render hd hbackground, c.text.lacks_render hd htext,
    Argument.lacks_renderOptional hd hindicator, hlast⟩

theorem ConfigLine.lacks_render (line : ConfigLine) (h : LacksEach d line.heldTexts) :
    Lacks d line.render := by
  have hword {t : String} (ht : Plain t) : Lacks d t := lacks_of_plain hd ht
  cases line with
  | bar identifier subcommands =>
      obtain ⟨hidentifier, hsubcommands⟩ := lacksEach_append.mp h
      exact lacks_spaced hd ⟨hword (by decide), Argument.lacks_renderOptional hd hidentifier,
        Argument.lacks_separated hd hsubcommands⟩
  | defaultOrientation word | workspaceLayout word | xwayland word =>
      exact lacks_spaced hd ⟨hword (by decide), lacks_keyword hd word⟩
  | includeFile text | swaybgCommand text | swaynagCommand text =>
      exact lacks_spaced hd ⟨hword (by decide), h text List.mem_cons_self⟩

/-- A font puts commas of its own, but no other delimiter. -/
theorem Font.lacks_render (hcomma : d ≠ ',') (f : Font) (h : LacksEach d f.heldTexts) :
    Lacks d f.render := by
  obtain ⟨hfamilies, hoptions, hvariations⟩ : LacksEach d f.description.families ∧ _ ∧ _ := by
    simpa only [Font.heldTexts, lacksEach_append] using h
  have hseparator : Lacks d "," := by simp [Lacks, hcomma]
  have hslot (a : Option Argument) (ha : LacksEach d (Argument.heldOptional a)) :
      Lacks d (Argument.renderOptional a) := Argument.lacks_renderOptional hd ha
  have hslots := lacksEach_flatMap.mp hoptions
  have hsize : Lacks d (f.description.size.elim "" FontSize.render) := by
    cases f.description.size with
    | none => exact lacks_empty
    | some size =>
        have hpixels := lacks_tokenIf size.pixels (t := "px") (lacks_of_plain hd (by decide))
        exact lacks_append.mpr ⟨size.value.lacks_render hd, hpixels⟩
  have hsettings :
      Lacks d (",".intercalate (f.description.variations.map FontVariation.render)) := by
    apply lacks_intercalate hseparator
    intro t ht
    obtain ⟨v, hv, rfl⟩ := List.mem_map.mp ht
    have hvariation := lacksEach_flatMap.mp hvariations v hv
    simp only [lacksEach_cons] at hvariation
    exact FontVariation.lacks_render (lacks_of_plain hd (by decide)) (lacks_of_plain hd (by decide))
      hvariation.1 hvariation.2.1
  have hmarkup := lacks_tokenIf f.pango (t := "pango:") (lacks_of_plain hd (by decide))
  have hdescription : Lacks d f.description.render :=
    lacks_spaced hd ⟨lacks_intercalate hseparator hfamilies, hslot _ (hslots _ (by simp)),
      hslot _ (hslots _ (by simp)), hslot _ (hslots _ (by simp)), hslot _ (hslots _ (by simp)),
      hslot _ (hslots _ (by simp)), hsize, hsettings⟩
  exact lacks_append.mpr ⟨hmarkup, hdescription⟩

theorem SymKey.lacks_render (key : SymKey) (h : Lacks d key.key) : Lacks d key.render :=
  lacks_append.mpr
    ⟨lacks_append.mpr ⟨lacks_keyword hd key.group, key.modifiers.lacks_render hd⟩, h⟩

theorem CodeKey.lacks_render (key : CodeKey) : Lacks d key.render :=
  lacks_append.mpr ⟨key.modifiers.lacks_render hd, lacks_integer hd key.code⟩

/-- The slots of a key binding: its word, its flags, and what follows them. -/
theorem BindFlags.lacks_spaced (flags : BindFlags) (h : LacksEach d flags.inputDevice.toList)
    {word : String} (hword : Lacks d word) {rest : List String} (hrest : rest.Forall (Lacks d)) :
    Lacks d (spaced ([word] ++ flags.slots ++ rest)) := by
  apply lacks_intercalate (lacks_space hd)
  intro t ht
  rcases List.mem_append.mp ht with ht | ht
  · rcases List.mem_append.mp ht with ht | ht
    · exact List.mem_singleton.mp ht ▸ hword
    · exact flags.lacks_slots hd h t ht
  · exact List.forall_iff_forall_mem.mp hrest t ht

/-- A top-level command has a delimiter other than the comma only if a text that it holds has it. -/
theorem TopLevel.lacks_render (hcomma : d ≠ ',') (c : TopLevel) (h : LacksEach d c.heldTexts) :
    Lacks d c.render := by
  have hword {t : String} (ht : Plain t) : Lacks d t := lacks_of_plain hd ht
  cases c with
  | assignToWorkspace clause target | assignToOutput clause target =>
      obtain ⟨hclause, htarget⟩ := lacksEach_cons.mp h
      exact lacks_spaced hd
        ⟨hword (by decide), hclause, hword (by decide), target.lacks_render hd htarget⟩
  | bindsym key command flags =>
      simp only [TopLevel.heldTexts, lacksEach_cons] at h
      obtain ⟨hkey, hcommand, hflags⟩ := h
      exact flags.lacks_spaced hd hflags (hword (by decide)) ⟨key.lacks_render hd hkey, hcommand⟩
  | bindcode key command flags =>
      obtain ⟨hcommand, hflags⟩ := lacksEach_cons.mp h
      exact flags.lacks_spaced hd hflags (hword (by decide)) ⟨key.lacks_render hd, hcommand⟩
  | unbindsym key flags =>
      obtain ⟨hkey, hflags⟩ := lacksEach_cons.mp h
      exact flags.lacks_spaced hd hflags (hword (by decide)) (key.lacks_render hd hkey)
  | unbindcode key flags =>
      exact flags.lacks_spaced hd h (hword (by decide)) (key.lacks_render hd)
  | bindswitch switch state command flags =>
      exact lacks_spaced hd ⟨hword (by decide), flags.lacks_render hd,
        lacks_switchEvent hd switch state, h command List.mem_cons_self⟩
  | unbindswitch switch state =>
      exact lacks_spaced hd ⟨hword (by decide), lacks_switchEvent hd switch state⟩
  | clientColors colors =>
      exact lacks_append.mpr ⟨hword (by decide), colors.lacks_render hd h⟩
  | font spec => exact lacks_spaced hd ⟨hword (by decide), spec.lacks_render hd hcomma h⟩
  | defaultBorder style | defaultFloatingBorder style =>
      exact lacks_spaced hd ⟨hword (by decide), style.lacks_render hd h⟩
  | clientBackground argument | workspace argument =>
      exact lacks_spaced hd ⟨hword (by decide), argument.lacks_render hd h⟩
  | exec line | execAlways line | mode line | noFocus line =>
      exact lacks_spaced hd ⟨hword (by decide), h line List.mem_cons_self⟩
  | forWindow clause command =>
      simp only [TopLevel.heldTexts, lacksEach_cons] at h
      exact lacks_spaced hd ⟨hword (by decide), h.1, h.2.1⟩
  | setVariable name value =>
      simp only [TopLevel.heldTexts, lacksEach_cons] at h
      have hname : Lacks d ("$" ++ name) := lacks_append.mpr ⟨hword (by decide), h.1⟩
      exact lacks_spaced hd ⟨hword (by decide), hname, h.2.1⟩
  | input name settings | seat name settings | output name settings =>
      obtain ⟨hname, hsettings⟩ := lacksEach_cons.mp h
      exact lacks_spaced hd
        ⟨hword (by decide), hname, Argument.lacks_separated hd hsettings⟩
  | defineMode name commands pangoMarkup =>
      obtain ⟨hname, hcommands⟩ := lacksEach_cons.mp h
      have hmarkup := lacks_tokenIf pangoMarkup (t := "--pango_markup ") (hword (by decide))
      exact lacks_spaced hd ⟨hword (by decide), lacks_append.mpr ⟨hmarkup, hname⟩,
        Argument.lacks_separated hd hcommands⟩
  | workspaceGaps target side amount =>
      exact lacks_spaced hd ⟨hword (by decide), target.lacks_render hd h, hword (by decide),
        lacks_keyword hd side, lacks_integer hd amount⟩
  | workspaceOutputs target outputs =>
      obtain ⟨htarget, houtputs⟩ := lacksEach_append.mp h
      exact lacks_spaced hd ⟨hword (by decide), target.lacks_render hd htarget,
        hword (by decide), Argument.lacks_separated hd houtputs⟩
  | floatingMaximumSize width height | floatingMinimumSize width height =>
      exact lacks_spaced hd ⟨hword (by decide), lacks_integer hd width, hword (by decide),
        lacks_integer hd height⟩
  | floatingModifier modifier word =>
      exact lacks_spaced hd ⟨hword (by decide), Argument.lacks_renderOptional hd h,
        lacks_keyword hd word⟩
  | titlebarPadding horizontal vertical =>
      exact lacks_spaced hd ⟨hword (by decide), lacks_integer hd horizontal,
        Argument.lacks_renderOptional hd h⟩
  | forceDisplayUrgencyHint milliseconds =>
      exact lacks_spaced hd ⟨hword (by decide), lacks_integer hd milliseconds, hword (by decide)⟩
  | titlebarBorderThickness amount | tilingDragThreshold amount =>
      exact lacks_spaced hd ⟨hword (by decide), lacks_integer hd amount⟩
  | defaultGaps side amount =>
      exact lacks_spaced hd ⟨hword (by decide), lacks_keyword hd side, lacks_integer hd amount⟩
  | hideEdgeBorders word i3 =>
      have hflag := lacks_tokenIf i3 (t := "--i3 ") (hword (by decide))
      exact lacks_spaced hd
        ⟨hword (by decide), lacks_append.mpr ⟨hflag, lacks_keyword hd word⟩⟩
  | focusFollowsMouse word | focusOnWindowActivation word | focusWrapping word
  | smartBorders word | smartGaps word | mouseWarping word | popupDuringFullscreen word
  | showMarks word | tilingDrag word | titleAlign word | workspaceAutoBackAndForth word =>
      exact lacks_spaced hd ⟨hword (by decide), lacks_keyword hd word⟩

end Rendering

/-- A joined text starts as its first piece does. -/
theorem head?_intercalate {word : String} (hword : word ≠ "") (separator : String)
    (rest : List String) :
    (separator.intercalate (word :: rest)).toList.head? = word.toList.head? := by
  cases rest with
  | nil => rw [String.intercalate_singleton]
  | cons next others =>
      have hne : word.toList ≠ [] := mt String.toList_eq_nil_iff.mp hword
      rw [String.intercalate_cons_cons, String.append_assoc, String.toList_append,
        List.head?_append_of_ne_nil _ hne]

/-- A sub-command starts with its own word and never with a bracket, whatever it holds. -/
theorem SubCommand.head?_render (c : SubCommand) :
    ∃ first, c.render.toList.head? = some first ∧ first ≠ '[' := by
  have hslots {word : String} (hword : word ≠ "") (rest : List String) :
      (spaced (word :: rest)).toList.head? = word.toList.head? := head?_intercalate hword " " rest
  have hplain : c.render.toList.head?.any (· != '[') = true := by
    cases c with
    | exit | kill | reload | scratchpadShow => decide
    | renameWorkspace newName oldName =>
        cases oldName <;> (rw [SubCommand.render, hslots (by decide)]; decide)
    | _ => rw [SubCommand.render, hslots (by decide)]; decide
  obtain ⟨first, hfirst, hne⟩ := Option.any_eq_true _ _ |>.mp hplain
  exact ⟨first, hfirst, by simpa using hne⟩

end SwayControl
