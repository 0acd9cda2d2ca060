import PageMap.Color
import PageMap.Typesetting.Composer
/-! # Drawing operations

What drawing a document amounts to: a list of operations, each in points on the page that was begun
last.
-/

namespace PageMap

inductive DrawOp where
  | beginPage (index : Nat) (size : Size)
  | endPage (index : Nat)
  | fillRect (rect : Rect) (color : Color)
  | strokeRect (rect : Rect) (color : Color) (thickness : Single)
  /-- A composed text in the rectangle that it was aligned into. The rotation is in degrees. -/
  | text (content : String) (lines : List String) (rect : Rect) (family : String) (size : Single)
      (color : Color) (rotation : Single)
  | image (rect : Rect) (intrinsic : Size) (rotation : Single)

def Size.toJson (s : Size) : Json :=
  .object [("width", Json.ofSingle s.width), ("height", Json.ofSingle s.height)]

def Rect.toJson (r : Rect) : Json :=
  .object [("x", Json.ofSingle r.x), ("y", Json.ofSingle r.y),
    ("width", Json.ofSingle r.width), ("height", Json.ofSingle r.height)]

namespace DrawOp

/-- The field of a rotation, which is left out where nothing is rotated. -/
def rotationField (rotation : Single) : List (String × Json) :=
  if rotation == 0.0 then [] else [("rotation", Json.ofSingle rotation)]

/-- The field of the lines of a text, which is left out where there are none. -/
def linesField (lines : List String) : List (String × Json) :=
  if lines.isEmpty then [] else [("lines", .array (lines.map .string))]

def toJson : DrawOp → Json
  | .beginPage index size =>
      .object [("op", .string "beginPage"), ("index", Json.ofNat index), ("size", size.toJson)]
  | .endPage index => .object [("op", .string "endPage"), ("index", Json.ofNat index)]
  | .fillRect rect color =>
      .object [("op", .string "fillRect"), ("rect", rect.toJson), ("color", color.toJson)]
  | .strokeRect rect color thickness =>
      .object [("op", .string "strokeRect"), ("rect", rect.toJson), ("color", color.toJson),
        ("thickness", Json.ofSingle thickness)]
  | .text content lines rect family size color rotation =>
      .object ([("op", .string "text"), ("content", .string content)] ++ linesField lines ++
        [("rect", rect.toJson), ("font_family", .string family),
          ("font_size", Json.ofSingle size), ("color", color.toJson)] ++ rotationField rotation)
  | .image rect intrinsic rotation =>
      .object ([("op", .string "image"), ("rect", rect.toJson), ("intrinsic", intrinsic.toJson)] ++
        rotationField rotation)

end DrawOp

end PageMap
