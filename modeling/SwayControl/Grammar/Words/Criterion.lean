import SwayControl.Grammar.Keyword

/-!
Words of criteria.
-/

namespace SwayControl

/-- The urgent window that an `urgent` criterion selects. -/
inductive UrgentPick where
  | first | last | latest | newest | oldest | recent
deriving DecidableEq, Repr

instance : Keyword UrgentPick where
  family := "UrgentState"
  all := [.first, .last, .latest, .newest, .oldest, .recent]
  text
    | .first => "first"
    | .last => "last"
    | .latest => "latest"
    | .newest => "newest"
    | .oldest => "oldest"
    | .recent => "recent"

/-- The window types of X11 that `window_type` understands. -/
inductive WindowKind where
  | normal | dialog | utility | toolbar | splash | menu | dropdownMenu | popupMenu | tooltip
    | notification
deriving DecidableEq, Repr

instance : Keyword WindowKind where
  family := "WindowKind"
  all := [.normal, .dialog, .utility, .toolbar, .splash, .menu, .dropdownMenu, .popupMenu,
    .tooltip, .notification]
  text
    | .normal => "normal"
    | .dialog => "dialog"
    | .utility => "utility"
    | .toolbar => "toolbar"
    | .splash => "splash"
    | .menu => "menu"
    | .dropdownMenu => "dropdown_menu"
    | .popupMenu => "popup_menu"
    | .tooltip => "tooltip"
    | .notification => "notification"

end SwayControl
