import SwayControl.Grammar.Keyword

/-!
Words of a font description: the five style slots.
-/

namespace SwayControl

/-- The slant of a font. -/
inductive FontStyle where
  | normal | roman | oblique | italic
deriving DecidableEq, Repr

instance : Keyword FontStyle where
  family := "FontStyle"
  all := [.normal, .roman, .oblique, .italic]
  text
    | .normal => "Normal"
    | .roman => "Roman"
    | .oblique => "Oblique"
    | .italic => "Italic"

/-- How lower-case letters are drawn. -/
inductive FontVariant where
  | smallCaps | allSmallCaps | petiteCaps | allPetiteCaps | unicase | titleCaps
deriving DecidableEq, Repr

instance : Keyword FontVariant where
  family := "FontVariant"
  all := [.smallCaps, .allSmallCaps, .petiteCaps, .allPetiteCaps, .unicase, .titleCaps]
  text
    | .smallCaps => "Small-Caps"
    | .allSmallCaps => "All-Small-Caps"
    | .petiteCaps => "Petite-Caps"
    | .allPetiteCaps => "All-Petite-Caps"
    | .unicase => "Unicase"
    | .titleCaps => "Title-Caps"

inductive FontWeight where
  | thin | ultraLight | extraLight | light | semiLight | demiLight | book | regular | medium
    | semiBold | demiBold | bold | ultraBold | extraBold | heavy | black | ultraBlack | extraBlack
deriving DecidableEq, Repr

instance : Keyword FontWeight where
  family := "FontWeight"
  all := [.thin, .ultraLight, .extraLight, .light, .semiLight, .demiLight, .book, .regular,
    .medium, .semiBold, .demiBold, .bold, .ultraBold, .extraBold, .heavy, .black, .ultraBlack,
    .extraBlack]
  text
    | .thin => "Thin"
    | .ultraLight => "Ultra-Light"
    | .extraLight => "Extra-Light"
    | .light => "Light"
    | .semiLight => "Semi-Light"
    | .demiLight => "Demi-Light"
    | .book => "Book"
    | .regular => "Regular"
    | .medium => "Medium"
    | .semiBold => "Semi-Bold"
    | .demiBold => "Demi-Bold"
    | .bold => "Bold"
    | .ultraBold => "Ultra-Bold"
    | .extraBold => "Extra-Bold"
    | .heavy => "Heavy"
    | .black => "Black"
    | .ultraBlack => "Ultra-Black"
    | .extraBlack => "Extra-Black"

inductive FontStretch where
  | ultraCondensed | extraCondensed | condensed | semiCondensed | semiExpanded | expanded
    | extraExpanded | ultraExpanded
deriving DecidableEq, Repr

instance : Keyword FontStretch where
  family := "FontStretch"
  all := [.ultraCondensed, .extraCondensed, .condensed, .semiCondensed, .semiExpanded, .expanded,
    .extraExpanded, .ultraExpanded]
  text
    | .ultraCondensed => "Ultra-Condensed"
    | .extraCondensed => "Extra-Condensed"
    | .condensed => "Condensed"
    | .semiCondensed => "Semi-Condensed"
    | .semiExpanded => "Semi-Expanded"
    | .expanded => "Expanded"
    | .extraExpanded => "Extra-Expanded"
    | .ultraExpanded => "Ultra-Expanded"

/-- The orientation of the glyphs. -/
inductive FontGravity where
  | notRotated | south | upsideDown | north | rotatedLeft | east | rotatedRight | west
deriving DecidableEq, Repr

instance : Keyword FontGravity where
  family := "FontGravity"
  all := [.notRotated, .south, .upsideDown, .north, .rotatedLeft, .east, .rotatedRight, .west]
  text
    | .notRotated => "Not-Rotated"
    | .south => "South"
    | .upsideDown => "Upside-Down"
    | .north => "North"
    | .rotatedLeft => "Rotated-Left"
    | .east => "East"
    | .rotatedRight => "Rotated-Right"
    | .west => "West"

end SwayControl
