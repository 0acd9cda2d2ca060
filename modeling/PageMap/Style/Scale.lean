import PageMap.Geometry
import PageMap.Json.Fields
/-! # Unit scales

Lengths in a map are in millimetres. Each kind of length has a factor of its own that is applied
when the raw value is turned into points.
-/

namespace PageMap

inductive ScaleKind where
  | geometry
  | fontSize
  | yIncrement
  | ySpacing
  deriving DecidableEq

namespace ScaleKind

def all : List ScaleKind := [.geometry, .fontSize, .yIncrement, .ySpacing]

def name : ScaleKind → String
  | .geometry => "Geometry"
  | .fontSize => "FontSize"
  | .yIncrement => "YIncrement"
  | .ySpacing => "YSpacing"

end ScaleKind

/-- A factor for each kind of length. -/
structure Scales where
  geometry : Single
  fontSize : Single
  yIncrement : Single
  ySpacing : Single
  deriving BEq

namespace Scales

/-- Plain millimetres. -/
def default : Scales := ⟨1.0, 1.0, 1.0, 1.0⟩

/-- Scales under which raw values are points. -/
def points : Scales :=
  let inverse := 1.0 / pointsPerMm
  ⟨inverse, inverse, inverse, inverse⟩

def ofKind (s : Scales) : ScaleKind → Single
  | .geometry => s.geometry
  | .fontSize => s.fontSize
  | .yIncrement => s.yIncrement
  | .ySpacing => s.ySpacing

/-- Points for one raw unit. -/
def factor (s : Scales) (kind : ScaleKind) : Single :=
  pointsPerMm * s.ofKind kind

/-- Turns a raw value into points. The value is first converted and then scaled, which need not be
    the same as multiplying by the factor. -/
def apply (s : Scales) (kind : ScaleKind) (raw : Single) : Single :=
  raw * pointsPerMm * s.ofKind kind

def sizeToPoints (s : Scales) (size : Size) : Size :=
  ⟨s.apply .geometry size.width, s.apply .geometry size.height⟩

def fieldNames : List String := ["geometry", "fontSize", "yIncrement", "ySpacing"]

/-- Reads scales from settings. A scale that is missing is one. -/
def ofWritten? (w : Json.Written) : Option Scales := do
  let [geometry, fontSize, yIncrement, ySpacing] ← w.fields? fieldNames | none
  let read := Json.Written.fieldOr 1.0 Json.Written.single?
  return ⟨← read geometry, ← read fontSize, ← read yIncrement, ← read ySpacing⟩

def toJson (s : Scales) : Json :=
  .object (fieldNames.zip
    ([s.geometry, s.fontSize, s.yIncrement, s.ySpacing].map Json.ofSingle))

end Scales

end PageMap
