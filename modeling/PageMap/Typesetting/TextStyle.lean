import PageMap.Color
import PageMap.Style.Alignment
import PageMap.Style.Font
/-! # Text styles
-/

namespace PageMap

/-- The font and paragraph attributes of a text. Sizes are in points. -/
structure TextStyle where
  family : String
  size : Single
  weight : FontWeight
  style : FontStyle
  stretch : FontStretch
  /-- The distance between lines, if the style fixes it. -/
  lineHeight : Option Single
  foreground : Color
  alignment : HorizontalAlignment
  verticalAlignment : VerticalAlignment
  wrapping : Wrapping

namespace TextStyle

/-- Twelve points of Helvetica in black. -/
def default : TextStyle where
  family := "Helvetica"
  size := 12.0
  weight := .normal
  style := .normal
  stretch := .normal
  lineHeight := none
  foreground := .black
  alignment := .leading
  verticalAlignment := .top
  wrapping := .wrap

/-- The distance between lines: six fifths of the size unless the style fixes it. -/
def effectiveLineHeight (s : TextStyle) : Single :=
  s.lineHeight.getD (s.size * 1.2)

end TextStyle

end PageMap
