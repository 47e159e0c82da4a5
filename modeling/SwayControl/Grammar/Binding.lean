import SwayControl.Grammar.Argument
import SwayControl.Grammar.Words.TopLevel

/-!
Keys and flags of bindings. Every flag has a slot of its own, so flags that are not set leave runs of
spaces; layout group and modifiers stand in front of the key, each closed by a plus sign.
-/

namespace SwayControl

structure BindFlags where
  wholeWindow : Bool
  border : Bool
  excludeTitleBar : Bool
  release : Bool
  locked : Bool
  toCode : Bool
  inputDevice : Option String
  noWarn : Bool
  noRepeat : Bool
  inhibited : Bool
deriving DecidableEq, Repr

structure SwitchFlags where
  locked : Bool
  noWarn : Bool
  reload : Bool
deriving DecidableEq, Repr

structure Modifiers where
  mod1 : Bool
  mod2 : Bool
  mod3 : Bool
  mod4 : Bool
  shift : Bool
  control : Bool
deriving DecidableEq, Repr

/-- A key combination by the name of its key. -/
structure SymKey where
  key : String
  modifiers : Modifiers
  group : LayoutGroup
deriving DecidableEq, Repr

/-- A key combination by the code of its key. -/
structure CodeKey where
  code : Int
  modifiers : Modifiers
deriving DecidableEq, Repr

def BindFlags.slots (f : BindFlags) : List String :=
  [tokenIf f.wholeWindow "--whole-window", tokenIf f.border "--border",
    tokenIf f.excludeTitleBar "--exclude-title-bar", tokenIf f.release "--release",
    tokenIf f.locked "--locked", tokenIf f.toCode "--to-code",
    f.inputDevice.elim "" ("--input-device=" ++ ·), tokenIf f.noWarn "--no-warn",
    tokenIf f.noRepeat "--no-repeat", tokenIf f.inhibited "--inhibited"]

def BindFlags.render (f : BindFlags) : String := spaced f.slots

def SwitchFlags.render (f : SwitchFlags) : String :=
  spaced [tokenIf f.locked "--locked", tokenIf f.noWarn "--no-warn", tokenIf f.reload "--reload"]

/-- The modifiers that are held, each followed by a plus sign. -/
def Modifiers.render (m : Modifiers) : String :=
  tokenIf m.mod1 "Mod1+" ++ tokenIf m.mod2 "Mod2+" ++ tokenIf m.mod3 "Mod3+" ++
    tokenIf m.mod4 "Mod4+" ++ tokenIf m.shift "Shift+" ++ tokenIf m.control "Control+"

/-- Group, modifiers and key name without blanks. -/
def SymKey.render (k : SymKey) : String := Keyword.text k.group ++ k.modifiers.render ++ k.key

/-- Modifiers and key code without blanks. -/
def CodeKey.render (k : CodeKey) : String := k.modifiers.render ++ toString k.code

end SwayControl
