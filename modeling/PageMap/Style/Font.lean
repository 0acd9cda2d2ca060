import PageMap.Single
/-! # Fonts

Weight, style and stretch select a face of a font family. Weights have a number on the scale from
1 to 999, and ten of these numbers have a name.
-/

namespace PageMap

/-- How heavy a face is. A number is used where no name fits. -/
inductive FontWeight where
  | thin
  | extraLight
  | light
  | normal
  | medium
  | semiBold
  | bold
  | extraBold
  | black
  | extraBlack
  | numeric (value : Nat)
  deriving DecidableEq

/-- Upright or slanted. -/
inductive FontStyle where
  | normal
  | italic
  | oblique
  deriving DecidableEq

/-- How wide a face is. -/
inductive FontStretch where
  | ultraCondensed
  | extraCondensed
  | condensed
  | semiCondensed
  | normal
  | semiExpanded
  | expanded
  | extraExpanded
  | ultraExpanded
  deriving DecidableEq

namespace FontWeight

/-- The named weights. -/
def named : List FontWeight :=
  [.thin, .extraLight, .light, .normal, .medium, .semiBold, .bold, .extraBold, .black, .extraBlack]

def value : FontWeight → Nat
  | .thin => 100
  | .extraLight => 200
  | .light => 300
  | .normal => 400
  | .medium => 500
  | .semiBold => 600
  | .bold => 700
  | .extraBold => 800
  | .black => 900
  | .extraBlack => 950
  | .numeric n => n

/-- The named weight of a number, or the number itself. -/
def ofValue (n : Nat) : FontWeight :=
  (named.find? fun w => w.value = n).getD (.numeric n)

def name? : FontWeight → Option String
  | .thin => some "Thin"
  | .extraLight => some "ExtraLight"
  | .light => some "Light"
  | .normal => some "Normal"
  | .medium => some "Medium"
  | .semiBold => some "SemiBold"
  | .bold => some "Bold"
  | .extraBold => some "ExtraBold"
  | .black => some "Black"
  | .extraBlack => some "ExtraBlack"
  | .numeric _ => none

/-- Counts as bold. -/
def isBold (w : FontWeight) : Bool :=
  600 ≤ w.value

end FontWeight

namespace FontStyle

def all : List FontStyle := [.normal, .italic, .oblique]

def name : FontStyle → String
  | .normal => "Normal"
  | .italic => "Italic"
  | .oblique => "Oblique"

def ofName? (name : String) : Option FontStyle :=
  all.find? fun s => s.name = name

end FontStyle

namespace FontStretch

def all : List FontStretch :=
  [.ultraCondensed, .extraCondensed, .condensed, .semiCondensed, .normal, .semiExpanded, .expanded,
    .extraExpanded, .ultraExpanded]

def name : FontStretch → String
  | .ultraCondensed => "UltraCondensed"
  | .extraCondensed => "ExtraCondensed"
  | .condensed => "Condensed"
  | .semiCondensed => "SemiCondensed"
  | .normal => "Normal"
  | .semiExpanded => "SemiExpanded"
  | .expanded => "Expanded"
  | .extraExpanded => "ExtraExpanded"
  | .ultraExpanded => "UltraExpanded"

def ofName? (name : String) : Option FontStretch :=
  all.find? fun s => s.name = name

/-- The width of a glyph relative to the normal face. -/
def widthFactor : FontStretch → Single
  | .ultraCondensed => 0.5
  | .extraCondensed => 0.625
  | .condensed => 0.75
  | .semiCondensed => 0.875
  | .normal => 1.0
  | .semiExpanded => 1.125
  | .expanded => 1.25
  | .extraExpanded => 1.5
  | .ultraExpanded => 2.0

end FontStretch

end PageMap
