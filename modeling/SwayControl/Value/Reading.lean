import SwayControl.Grammar.ConfigLine
import SwayControl.Grammar.Criterion
import SwayControl.Grammar.TopLevel
import SwayControl.Value.Shown

/-!
Reading values into the grammar. What the grammar takes is read; any other value is refused, and the
refusal says what was expected and which value stood there.
-/

namespace SwayControl

/-- What a place of the grammar takes. -/
inductive Expected where
  | argument | criterion | subCommand | topLevel | configLine | command | resize
  | field
deriving DecidableEq, Repr

def Expected.name : Expected → String
  | .argument => "an argument primitive"
  | .criterion => "a criterion"
  | .subCommand => "a sub-command"
  | .topLevel => "a top-level command"
  | .configLine => "a config command"
  | .command => "a command"
  | .resize => "a resize change"
  | .field => "a value of its field"

/-- A value that stands where the grammar does not take it. -/
structure Refusal where
  expected : Expected
  value : Value

def Refusal.message (texts : Ref → String) (r : Refusal) : String :=
  "Not " ++ r.expected.name ++ ": " ++ r.value.shown texts

/-- The outcome of reading a value. -/
abbrev Reading := Except Refusal

namespace Value

def refuse {α : Type} (value : Value) (expected : Expected) : Reading α := .error ⟨expected, value⟩

/-- A text, or a keyword as its text. -/
def readText : Value → Reading String
  | .text s => .ok s
  | .keyword w => .ok w.text
  | value => value.refuse .field

/-- A text that may be absent. -/
def readTextOptional : Value → Reading (Option String)
  | .absent => .ok none
  | value => some <$> value.readText

def readInt : Value → Reading Int
  | .int n => .ok n
  | value => value.refuse .field

def readIntOptional : Value → Reading (Option Int)
  | .absent => .ok none
  | value => some <$> value.readInt

def readNumber : Value → Reading Number
  | .int n => .ok (.int n)
  | .real x => .ok (.real x)
  | value => value.refuse .field

def readFlag : Value → Reading Bool
  | .flag on => .ok on
  | value => value.refuse .field

/-- A word of one keyword list. -/
def readWord {α : Type} [Keyword α] : Value → Reading α
  | .keyword w =>
    match Keyword.ofWord? w with
    | some a => .ok a
    | none => (Value.keyword w).refuse .field
  | value => value.refuse .field

def readWordOptional {α : Type} [Keyword α] : Value → Reading (Option α)
  | .absent => .ok none
  | value => some <$> value.readWord

/-- A component of a colour. -/
def readComponent (value : Value) : Reading (Fin 256) := do
  let n ← value.readInt
  if h : 0 ≤ n ∧ n < 256 then .ok ⟨n.toNat, by omega⟩ else value.refuse .field

def readAlpha : Value → Reading (Option (Fin 256))
  | .absent => .ok none
  | value => some <$> value.readComponent

def readColor : Value → Reading Color
  | .record (.argument .color) [red, green, blue, alpha] =>
    return ⟨← red.readComponent, ← green.readComponent, ← blue.readComponent, ← alpha.readAlpha⟩
  | value => value.refuse .argument

/-- Any argument of a command. -/
def readArgument : Value → Reading Argument
  | .record (.argument .focused) [] => .ok .focused
  | .keyword w => .ok (.word w.text)
  | .text s => .ok (.word s)
  | .flag on => .ok (.flag on)
  | .int n => .ok (.number (.int n))
  | .real x => .ok (.number (.real x))
  | value@(.record (.argument .color) _) => .color <$> value.readColor
  | .record (.argument .length) [amount, unit] =>
    return .length ⟨← amount.readNumber, ← unit.readWordOptional⟩
  | .record (.argument .outputName) [name] => .output <$> name.readText
  | .record (.argument .workspaceName) [name, number] =>
    return .workspace ⟨← name.readText, ← number.readIntOptional⟩
  | .record (.argument .workspaceNumber) [workspace] => .workspaceNumber <$> workspace.readArgument
  | value => value.refuse .argument

def readArgumentOptional : Value → Reading (Option Argument)
  | .absent => .ok none
  | value => some <$> value.readArgument

/-- The items of a tuple, each read in turn. -/
def readItems {α : Type} (read : Value → Reading α) : Value → Reading (List α)
  | .tuple items => items.mapM read
  | value => value.refuse .field

def readCriterion : Value → Reading Criterion
  | .record (.criterion .floating) [] => .ok .floating
  | .record (.criterion .tiling) [] => .ok .tiling
  | .record (.criterion (.property key)) [value] => .property key <$> value.readArgument
  | value => value.refuse .criterion

def readFontOptions : Value → Reading FontOptions
  | .record (.font .options) [style, variant, weight, stretch, gravity] =>
    return ⟨← style.readArgumentOptional, ← variant.readArgumentOptional,
      ← weight.readArgumentOptional, ← stretch.readArgumentOptional,
      ← gravity.readArgumentOptional⟩
  | value => value.refuse .field

def readFontSize : Value → Reading FontSize
  | .record (.font .size) [value, pixels] => return ⟨← value.readNumber, ← pixels.readFlag⟩
  | value => value.refuse .field

def readFontSizeOptional : Value → Reading (Option FontSize)
  | .absent => .ok none
  | value => some <$> value.readFontSize

def readFontVariation : Value → Reading FontVariation
  | .tuple [axis, value] => return ⟨← axis.readText, ← value.readText⟩
  | value => value.refuse .field

/-- A font description. The size is read before the style slots, which are the only part that can be
refused as arguments. -/
def readFontDescription : Value → Reading FontDescription
  | .record (.font .description) [families, options, size, variations] => do
    let families ← families.readItems readText
    let size ← size.readFontSizeOptional
    let variations ← variations.readItems readFontVariation
    return ⟨families, ← options.readFontOptions, size, variations⟩
  | value => value.refuse .field

def readFont : Value → Reading Font
  | .record (.font .font) [description, pango] =>
    return ⟨← description.readFontDescription, ← pango.readFlag⟩
  | value => value.refuse .field

/-- A border style. The thickness is looked at only for the kinds that take one. -/
def readBorderStyle : Value → Reading BorderStyle
  | .record (.window .borderStyle) [word, thickness] => do
    let kind : BorderKind ← word.readWord
    match kind with
    | .normal | .pixel => return ⟨kind, ← thickness.readArgumentOptional⟩
    | .none | .csd | .toggle => return ⟨kind, none⟩
  | value => value.refuse .field

def readFocusTarget : Value → Reading FocusTarget
  | .record (.window .focusCycle) [direction, sibling] =>
    return .cycle (← direction.readWord) (← sibling.readFlag)
  | .record (.window .focusOutput) [output] => .output <$> output.readArgument
  | value => .place <$> value.readArgument

def readLayoutTarget : Value → Reading LayoutTarget
  | .record (.window .layoutToggle) [.absent] => .ok .toggle
  | .record (.window .layoutToggle) [.tuple options] => .toggleAmong <$> options.mapM readArgument
  | .record (.window .layoutToggle) [cycle] => .toggleOver <$> cycle.readArgument
  | value => .mode <$> value.readArgument

def readMoveTarget : Value → Reading MoveTarget
  | .record (.window .moveDirection) [direction, pixels] =>
    return .direction (← direction.readWord) (← pixels.readInt)
  | .record (.window .movePosition) [x, y] =>
    return .position (← x.readArgument) (← y.readArgument)
  | .record (.window .moveAbsolutePosition) [x, y] =>
    return .absolutePosition (← x.readInt) (← y.readInt)
  | .record (.window .moveToMark) [mark] => .toMark <$> mark.readText
  | .record (.window .moveToWorkspace) [workspace, noAutoBackAndForth] =>
    return .toWorkspace (← workspace.readArgument) (← noAutoBackAndForth.readFlag)
  | .record (.window .moveContainerToOutput) [output] => .containerToOutput <$> output.readArgument
  | .record (.window .moveWorkspaceToOutput) [output] => .workspaceToOutput <$> output.readArgument
  | value => .place <$> value.readArgument

def readResize : Value → Reading Resize
  | .record (.window .resizeBy) [action, dimension, amount] =>
    return .by (← action.readWord) (← dimension.readWord) (← amount.readArgument)
  | .record (.window .resizeSet) [width, .absent] => .width <$> width.readArgumentOptional
  | .record (.window .resizeSet) [.absent, height] => .height <$> height.readArgument
  | .record (.window .resizeSet) [width, height] =>
    return .both (← width.readArgument) (← height.readArgument)
  | value => value.refuse .resize

/-- The fields of a sub-command of a given form. -/
def readSubCommandFields (form : SubCommandForm) (fields : List Value) : Reading SubCommand :=
  match form, fields with
  | .border, [style] => .border <$> style.readBorderStyle
  | .exit, [] => .ok .exit
  | .floating, [state] => .floating <$> state.readWord
  | .focus, [target] => .focus <$> target.readFocusTarget
  | .fullscreen, [state, everyOutput] =>
    return .fullscreen (← state.readWord) (← everyOutput.readFlag)
  | .gaps, [side, scope, change, amount] =>
    return .gaps (← side.readWord) (← scope.readWord) (← change.readWord) (← amount.readInt)
  | .inhibitIdle, [mode] => .inhibitIdle <$> mode.readWord
  | .kill, [] => .ok .kill
  | .layout, [target] => .layout <$> target.readLayoutTarget
  | .mark, [identifier, mode] => return .mark (← identifier.readText) (← mode.readWord)
  | .maxRenderTime, [milliseconds] => .maxRenderTime <$> milliseconds.readIntOptional
  | .move, [target] => .move <$> target.readMoveTarget
  | .nop, [comment] => .nop <$> comment.readArgumentOptional
  | .opacity, [change, value] => return .opacity (← change.readWord) (← value.readNumber)
  | .reload, [] => .ok .reload
  | .renameWorkspace, [newName, oldName] =>
    return .renameWorkspace (← newName.readText) (← oldName.readTextOptional)
  | .resize, [change] => .resize <$> change.readResize
  | .scratchpadShow, [] => .ok .scratchpadShow
  | .shortcutsInhibitor, [state] => .shortcutsInhibitor <$> state.readWord
  | .split, [mode] => .split <$> mode.readWord
  | .sticky, [state] => .sticky <$> state.readWord
  | .swap, [kind, value] => return .swap (← kind.readWord) (← value.readText)
  | .titleFormat, [format] => .titleFormat <$> format.readText
  | .unmark, [identifier] => .unmark <$> identifier.readArgumentOptional
  | .urgentHint, [action] => .urgentHint <$> action.readWord
  | form, fields => (Value.record (.subCommand form) fields).refuse .field

def readSubCommand : Value → Reading SubCommand
  | .record (.subCommand form) fields => readSubCommandFields form fields
  | value => value.refuse .subCommand

def readBindFlags : Value → Reading BindFlags
  | .record (.binding .bindFlags) [wholeWindow, border, excludeTitleBar, release, locked, toCode,
      inputDevice, noWarn, noRepeat, inhibited] =>
    return ⟨← wholeWindow.readFlag, ← border.readFlag, ← excludeTitleBar.readFlag,
      ← release.readFlag, ← locked.readFlag, ← toCode.readFlag, ← inputDevice.readTextOptional,
      ← noWarn.readFlag, ← noRepeat.readFlag, ← inhibited.readFlag⟩
  | value => value.refuse .field

def readSwitchFlags : Value → Reading SwitchFlags
  | .record (.binding .switchFlags) [locked, noWarn, reload] =>
    return ⟨← locked.readFlag, ← noWarn.readFlag, ← reload.readFlag⟩
  | value => value.refuse .field

def readModifiers : Value → Reading Modifiers
  | .record (.binding .modifiers) [mod1, mod2, mod3, mod4, shift, control] =>
    return ⟨← mod1.readFlag, ← mod2.readFlag, ← mod3.readFlag, ← mod4.readFlag, ← shift.readFlag,
      ← control.readFlag⟩
  | value => value.refuse .field

def readSymKey : Value → Reading SymKey
  | .record (.binding .symKey) [key, modifiers, group] =>
    return ⟨← key.readText, ← modifiers.readModifiers, ← group.readWord⟩
  | value => value.refuse .field

def readCodeKey : Value → Reading CodeKey
  | .record (.binding .codeKey) [code, modifiers] =>
    return ⟨← code.readInt, ← modifiers.readModifiers⟩
  | value => value.refuse .field

/-- A set of colours. The child border is looked at only after an indicator. -/
def readClientColors : Value → Reading ClientColors
  | .record (.topLevel .clientColors) [state, border, background, label, indicator, childBorder] => do
    let childBorder := match indicator with
      | .absent => Value.absent
      | _ => childBorder
    return ⟨← state.readWord, ← border.readArgument, ← background.readArgument, ← label.readArgument,
      ← indicator.readArgumentOptional, ← childBorder.readArgumentOptional⟩
  | value => value.refuse .topLevel

/-- The text of a criteria clause. -/
def readClause (texts : Ref → String) : Value → Reading String
  | .builder (.group index) => .ok (texts (.group index))
  | value => value.refuse .field

/-- The fields of a top-level command of a given form. The text of the command that a binding or rule
runs is handed in as read, and looked at after all other fields. -/
def readTopLevelFields (texts : Ref → String) (command : Reading String) (form : TopLevelForm)
    (fields : List Value) : Reading TopLevel :=
  match form, fields with
  | .assignToWorkspace, [clause, workspace] =>
    return .assignToWorkspace (← clause.readClause texts) (← workspace.readArgument)
  | .assignToOutput, [clause, output] =>
    return .assignToOutput (← clause.readClause texts) (← output.readArgument)
  | .bindsym, [key, _, flags] => do
    let flags ← flags.readBindFlags
    return .bindsym (← key.readSymKey) (← command) flags
  | .bindcode, [key, _, flags] => do
    let flags ← flags.readBindFlags
    return .bindcode (← key.readCodeKey) (← command) flags
  | .bindswitch, [switch, state, _, flags] => do
    let flags ← flags.readSwitchFlags
    return .bindswitch (← switch.readWord) (← state.readWord) (← command) flags
  | .clientBackground, [color] => .clientBackground <$> color.readArgument
  | .clientColors, fields =>
    .clientColors <$> (Value.record (.topLevel .clientColors) fields).readClientColors
  | .defaultBorder, [style] => .defaultBorder <$> style.readBorderStyle
  | .defaultFloatingBorder, [style] => .defaultFloatingBorder <$> style.readBorderStyle
  | .exec, [line] => .exec <$> line.readText
  | .execAlways, [line] => .execAlways <$> line.readText
  | .floatingMaximumSize, [width, height] =>
    return .floatingMaximumSize (← width.readInt) (← height.readInt)
  | .floatingMinimumSize, [width, height] =>
    return .floatingMinimumSize (← width.readInt) (← height.readInt)
  | .floatingModifier, [modifier, mode] =>
    return .floatingModifier (← modifier.readArgumentOptional) (← mode.readWord)
  | .focusFollowsMouse, [mode] => .focusFollowsMouse <$> mode.readWord
  | .focusOnWindowActivation, [mode] => .focusOnWindowActivation <$> mode.readWord
  | .focusWrapping, [mode] => .focusWrapping <$> mode.readWord
  | .font, [font] => .font <$> font.readFont
  | .forceDisplayUrgencyHint, [milliseconds] => .forceDisplayUrgencyHint <$> milliseconds.readInt
  | .titlebarBorderThickness, [thickness] => .titlebarBorderThickness <$> thickness.readInt
  | .titlebarPadding, [horizontal, vertical] =>
    return .titlebarPadding (← horizontal.readInt) (← vertical.readArgumentOptional)
  | .forWindow, [clause, _] => return .forWindow (← clause.readClause texts) (← command)
  | .defaultGaps, [side, amount] => return .defaultGaps (← side.readWord) (← amount.readInt)
  | .hideEdgeBorders, [mode, i3] => return .hideEdgeBorders (← mode.readWord) (← i3.readFlag)
  | .input, [identifier, settings] =>
    return .input (← identifier.readText) (← settings.readItems readArgument)
  | .seat, [name, settings] => return .seat (← name.readText) (← settings.readItems readArgument)
  | .output, [name, settings] => return .output (← name.readText) (← settings.readItems readArgument)
  | .smartBorders, [mode] => .smartBorders <$> mode.readWord
  | .smartGaps, [mode] => .smartGaps <$> mode.readWord
  | .mode, [name] => .mode <$> name.readText
  | .defineMode, [name, commands, pangoMarkup] =>
    return .defineMode (← name.readText) (← commands.readItems readArgument) (← pangoMarkup.readFlag)
  | .mouseWarping, [mode] => .mouseWarping <$> mode.readWord
  | .noFocus, [clause] => .noFocus <$> clause.readClause texts
  | .popupDuringFullscreen, [policy] => .popupDuringFullscreen <$> policy.readWord
  | .setVariable, [name, value] => return .setVariable (← name.readText) (← value.readText)
  | .showMarks, [state] => .showMarks <$> state.readWord
  | .tilingDrag, [state] => .tilingDrag <$> state.readWord
  | .tilingDragThreshold, [threshold] => .tilingDragThreshold <$> threshold.readInt
  | .titleAlign, [alignment] => .titleAlign <$> alignment.readWord
  | .unbindswitch, [switch, state] => return .unbindswitch (← switch.readWord) (← state.readWord)
  | .unbindsym, [key, flags] => return .unbindsym (← key.readSymKey) (← flags.readBindFlags)
  | .unbindcode, [key, flags] => return .unbindcode (← key.readCodeKey) (← flags.readBindFlags)
  | .workspace, [workspace] => .workspace <$> workspace.readArgument
  | .workspaceGaps, [workspace, side, amount] =>
    return .workspaceGaps (← workspace.readArgument) (← side.readWord) (← amount.readInt)
  | .workspaceOutputs, [workspace, outputs] =>
    return .workspaceOutputs (← workspace.readArgument) (← outputs.readItems readArgument)
  | .workspaceAutoBackAndForth, [state] => .workspaceAutoBackAndForth <$> state.readWord
  | form, fields => (Value.record (.topLevel form) fields).refuse .field

/-- The fields of a configuration line of a given form. -/
def readConfigLineFields (form : ConfigLineForm) (fields : List Value) : Reading ConfigLine :=
  match form, fields with
  | .bar, [identifier, subcommands] =>
    return .bar (← identifier.readArgumentOptional) (← subcommands.readItems readArgument)
  | .defaultOrientation, [orientation] => .defaultOrientation <$> orientation.readWord
  | .includeFile, [path] => .includeFile <$> path.readText
  | .swaybgCommand, [line] => .swaybgCommand <$> line.readText
  | .swaynagCommand, [line] => .swaynagCommand <$> line.readText
  | .workspaceLayout, [mode] => .workspaceLayout <$> mode.readWord
  | .xwayland, [mode] => .xwayland <$> mode.readWord
  | form, fields => (Value.record (.configLine form) fields).refuse .field

def readConfigLine : Value → Reading ConfigLine
  | .record (.configLine form) fields => readConfigLineFields form fields
  | value => value.refuse .configLine

mutual

/-- The text of any command: a unit's as it stands, raw text as it is, and that of a record by its
family. -/
def commandText (texts : Ref → String) : Value → Reading String
  | .builder (.unit index) => .ok (texts (.unit index))
  | .record .raw [line] => line.readText
  | .record (.subCommand form) fields => SubCommand.render <$> readSubCommandFields form fields
  | .record (.topLevel form) fields =>
    TopLevel.render <$> readTopLevelFields texts (embeddedText texts form fields) form fields
  | .record (.configLine form) fields => ConfigLine.render <$> readConfigLineFields form fields
  | value => value.refuse .command

/-- The text of the command that a binding or rule runs. -/
def embeddedText (texts : Ref → String) (form : TopLevelForm) : List Value → Reading String
  | [] => (Value.record (.topLevel form) []).refuse .field
  | value :: rest =>
    match form with
    | .bindsym | .bindcode => embeddedAt texts 0 rest
    | .bindswitch => embeddedAt texts 1 rest
    | .forWindow => embeddedAt texts 0 rest
    | _ => value.refuse .field

/-- The text of the command at a place of a list of fields. -/
def embeddedAt (texts : Ref → String) : Nat → List Value → Reading String
  | _, [] => Value.absent.refuse .field
  | 0, value :: _ => commandText texts value
  | index + 1, _ :: rest => embeddedAt texts index rest

end

def readTopLevel (texts : Ref → String) : Value → Reading TopLevel
  | .record (.topLevel form) fields =>
    readTopLevelFields texts (embeddedText texts form fields) form fields
  | value => value.refuse .topLevel

end Value

end SwayControl
