import SwayControl.Grammar.Argument
import SwayControl.Grammar.Words.Font

/-!
Font descriptions: families with commas between them, five style slots, the size, and the variations.
Every slot is written, empty or not, so a bare family is followed by blanks.
-/

namespace SwayControl

/-- The five style slots. -/
structure FontOptions where
  style : Option Argument
  variant : Option Argument
  weight : Option Argument
  stretch : Option Argument
  gravity : Option Argument
deriving DecidableEq, Repr

/-- A size in points, or in device pixels. -/
structure FontSize where
  value : Number
  pixels : Bool
deriving DecidableEq, Repr

/-- A setting of one axis of a variable font. -/
structure FontVariation where
  axis : String
  value : String
deriving DecidableEq, Repr

structure FontDescription where
  families : List String
  options : FontOptions
  size : Option FontSize
  variations : List FontVariation
deriving DecidableEq, Repr

/-- The font of title bars; with `pango` the titles may hold markup. -/
structure Font where
  description : FontDescription
  pango : Bool
deriving DecidableEq, Repr

def FontOptions.slots (o : FontOptions) : List String :=
  [o.style, o.variant, o.weight, o.stretch, o.gravity].map Argument.renderOptional

def FontOptions.render (o : FontOptions) : String := spaced o.slots

/-- The number, marked with `px` where it counts pixels. -/
def FontSize.render (s : FontSize) : String := s.value.render ++ tokenIf s.pixels "px"

/-- The axis between backquotes, an equals sign and the value. -/
def FontVariation.render (v : FontVariation) : String := "\x60" ++ v.axis ++ "\x60=" ++ v.value

/-- The families, the style slots, the size and the variations. -/
def FontDescription.slots (d : FontDescription) : List String :=
  [",".intercalate d.families] ++ d.options.slots ++
    [d.size.elim "" FontSize.render, ",".intercalate (d.variations.map FontVariation.render)]

def FontDescription.render (d : FontDescription) : String := spaced d.slots

/-- A description, marked in front where titles may hold markup. -/
def Font.render (f : Font) : String := tokenIf f.pango "pango:" ++ f.description.render

end SwayControl
