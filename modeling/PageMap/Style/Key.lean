import PageMap.Style.Scale
/-! # Style keys

The attributes that take part in the cascade. Every other attribute of an element concerns that
element alone.
-/

namespace PageMap

inductive StyleKey where
  | yIncrement
  | ySpacing
  | rotation
  | borderBrush
  | borderThickness
  | borderBackground
  | textPadding
  | textAlignment
  | textVerticalAlignment
  | textWrapping
  | fontFamily
  | fontSize
  | fontStretch
  | fontStyle
  | fontWeight
  | lineHeight
  | foreground
  /-- The key path of bound data. -/
  | property
  deriving DecidableEq

inductive ValueKind where
  | length (scale : ScaleKind)
  | angle
  | color
  | horizontalAlignment
  | verticalAlignment
  | wrapping
  | fontFamily
  | fontStretch
  | fontStyle
  | fontWeight
  | keyPath
  deriving DecidableEq

def ValueKind.name : ValueKind → String
  | .length scale => "Length(" ++ scale.name ++ ")"
  | .angle => "Angle"
  | .color => "Color"
  | .horizontalAlignment => "HorizontalAlignment"
  | .verticalAlignment => "VerticalAlignment"
  | .wrapping => "Wrapping"
  | .fontFamily => "FontFamily"
  | .fontStretch => "FontStretch"
  | .fontStyle => "FontStyle"
  | .fontWeight => "FontWeight"
  | .keyPath => "KeyPath"

namespace StyleKey

/-- All keys, in their fixed order. -/
def all : List StyleKey :=
  [.yIncrement, .ySpacing, .rotation, .borderBrush, .borderThickness, .borderBackground,
    .textPadding, .textAlignment, .textVerticalAlignment, .textWrapping, .fontFamily, .fontSize,
    .fontStretch, .fontStyle, .fontWeight, .lineHeight, .foreground, .property]

def name : StyleKey → String
  | .yIncrement => "YIncrement"
  | .ySpacing => "YSpacing"
  | .rotation => "Rotation"
  | .borderBrush => "BorderBrush"
  | .borderThickness => "BorderThickness"
  | .borderBackground => "BorderBackground"
  | .textPadding => "TextPadding"
  | .textAlignment => "TextAlignment"
  | .textVerticalAlignment => "TextVerticalAlignment"
  | .textWrapping => "TextWrapping"
  | .fontFamily => "FontFamily"
  | .fontSize => "FontSize"
  | .fontStretch => "FontStretch"
  | .fontStyle => "FontStyle"
  | .fontWeight => "FontWeight"
  | .lineHeight => "LineHeight"
  | .foreground => "Foreground"
  | .property => "Property"

/-- The key of an attribute name. Names are case-sensitive. -/
def ofName? (name : String) : Option StyleKey :=
  all.find? fun key => key.name = name

def kind : StyleKey → ValueKind
  | .yIncrement => .length .yIncrement
  | .ySpacing => .length .ySpacing
  | .fontSize => .length .fontSize
  | .borderThickness | .textPadding | .lineHeight => .length .geometry
  | .rotation => .angle
  | .borderBrush | .borderBackground | .foreground => .color
  | .textAlignment => .horizontalAlignment
  | .textVerticalAlignment => .verticalAlignment
  | .textWrapping => .wrapping
  | .fontFamily => .fontFamily
  | .fontStretch => .fontStretch
  | .fontStyle => .fontStyle
  | .fontWeight => .fontWeight
  | .property => .keyPath

end StyleKey

end PageMap
