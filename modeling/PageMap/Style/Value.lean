import PageMap.Color
import PageMap.Style.Alignment
import PageMap.Style.Font
import PageMap.Style.Key
/-! # Style values

A style value is what an attribute means once it is read: lengths are in points, names are resolved.
-/

namespace PageMap

/-- A value of a style key. -/
inductive StyleValue where
  | length (points : Single)
  | angle (degrees : Single)
  | color (color : Color)
  | horizontalAlignment (alignment : HorizontalAlignment)
  | verticalAlignment (alignment : VerticalAlignment)
  | wrapping (wrapping : Wrapping)
  | fontFamily (family : String)
  | fontStretch (stretch : FontStretch)
  | fontStyle (style : FontStyle)
  | fontWeight (weight : FontWeight)
  | keyPath (path : String)

namespace StyleValue

def length? : StyleValue → Option Single
  | .length points => some points
  | _ => none

def angle? : StyleValue → Option Single
  | .angle degrees => some degrees
  | _ => none

def color? : StyleValue → Option Color
  | .color c => some c
  | _ => none

def horizontalAlignment? : StyleValue → Option HorizontalAlignment
  | .horizontalAlignment alignment => some alignment
  | _ => none

def verticalAlignment? : StyleValue → Option VerticalAlignment
  | .verticalAlignment alignment => some alignment
  | _ => none

def wrapping? : StyleValue → Option Wrapping
  | .wrapping w => some w
  | _ => none

def fontStretch? : StyleValue → Option FontStretch
  | .fontStretch stretch => some stretch
  | _ => none

def fontStyle? : StyleValue → Option FontStyle
  | .fontStyle style => some style
  | _ => none

def fontWeight? : StyleValue → Option FontWeight
  | .fontWeight weight => some weight
  | _ => none

/-- The text of a family name or of a key path. -/
def text? : StyleValue → Option String
  | .fontFamily text => some text
  | .keyPath text => some text
  | _ => none

end StyleValue

/-- The value of a key where nothing else gives one. Some keys have none. -/
def StyleKey.default? : StyleKey → Option StyleValue
  | .yIncrement | .ySpacing | .borderThickness | .textPadding => some (.length 0.0)
  | .rotation => some (.angle 0.0)
  | .fontSize => some (.length 12.0)
  | .textAlignment => some (.horizontalAlignment .leading)
  | .textVerticalAlignment => some (.verticalAlignment .top)
  | .textWrapping => some (.wrapping .wrap)
  | .fontFamily => some (.fontFamily "Helvetica")
  | .fontStretch => some (.fontStretch .normal)
  | .fontStyle => some (.fontStyle .normal)
  | .fontWeight => some (.fontWeight .normal)
  | .foreground => some (.color .black)
  | .borderBrush | .borderBackground | .lineHeight | .property => none

end PageMap
