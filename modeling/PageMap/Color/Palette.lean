import PageMap.Color
import PageMap.Text.Case
/-! # Named colors

A color token in a map is a color in hexadecimal or a name. Names are matched without regard to
case, first among those registered and then among the built-in ones.
-/

namespace PageMap

/-- Registered names in lowercase with their colors, the latest first. -/
structure Palette where
  named : List (String × Color)

namespace Palette

def empty : Palette := ⟨[]⟩

/-- Registers a name; it hides an earlier one that differs in case only. -/
def register (p : Palette) (name : String) (color : Color) : Palette :=
  ⟨(Text.lowercase name, color) :: p.named⟩

/-- The colors that need no registration. -/
def builtin : List (String × Color) :=
  [("black", .black), ("white", .white), ("transparent", .transparent),
    ("red", .rgb 255 0 0), ("green", .rgb 0 128 0), ("blue", .rgb 0 0 255),
    ("yellow", .rgb 255 255 0), ("orange", .rgb 255 165 0),
    ("gray", .gray 128), ("grey", .gray 128), ("lightgray", .gray 211), ("lightgrey", .gray 211),
    ("darkgray", .gray 169), ("darkgrey", .gray 169)]

def resolve? (p : Palette) (token : String) : Option Color :=
  match Text.trimBy Text.isBlank token.toList with
  | '#' :: digits => (Color.ofHex (String.ofList ('#' :: digits))).toOption
  | cs =>
      let name := Text.lowercase (String.ofList cs)
      (p.named.lookup name).or (builtin.lookup name)

end Palette

end PageMap
