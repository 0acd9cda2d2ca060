import PageMap.Single
/-! # Points, sizes and rectangles

All coordinates are PDF points, 72 to the inch, with the origin at the top left of the page and `y`
growing downwards. Maps give lengths in millimetres.
-/

namespace PageMap

/-- Points in one millimetre. -/
def pointsPerMm : Single := 72.0 / 25.4

def mmToPoints (mm : Single) : Single :=
  mm * pointsPerMm

def pointsToMm (points : Single) : Single :=
  points / pointsPerMm

structure Point where
  x : Single
  y : Single
  deriving BEq

structure Size where
  width : Single
  height : Single
  deriving BEq

namespace Size

def zero : Size := ⟨0.0, 0.0⟩

/-- One of the extents is not positive. -/
def isEmpty (s : Size) : Bool :=
  s.width ≤ 0.0 || s.height ≤ 0.0

end Size

/-- A rectangle, given by its top left corner and its extents. -/
structure Rect where
  x : Single
  y : Single
  width : Single
  height : Single
  deriving BEq

namespace Rect

/-- The rectangle of a size with its top left corner at a position. -/
def ofOrigin (origin : Point) (size : Size) : Rect :=
  ⟨origin.x, origin.y, size.width, size.height⟩

def size (r : Rect) : Size :=
  ⟨r.width, r.height⟩

def maxX (r : Rect) : Single :=
  r.x + r.width

def maxY (r : Rect) : Single :=
  r.y + r.height

def translate (r : Rect) (dx dy : Single) : Rect :=
  { r with x := r.x + dx, y := r.y + dy }

/-- Takes the same margin off every side. An extent never becomes negative. -/
def inset (r : Rect) (margin : Single) : Rect :=
  { x := r.x + margin
    y := r.y + margin
    width := Single.larger (r.width - 2.0 * margin) 0.0
    height := Single.larger (r.height - 2.0 * margin) 0.0 }

/-- How far an edge may lie outside and still count as inside. -/
def tolerance : Single := 0.01

/-- Every edge of the other rectangle lies inside, up to the tolerance. -/
def contains (r other : Rect) : Bool :=
  r.x ≤ other.x + tolerance && r.y ≤ other.y + tolerance &&
    other.maxX ≤ r.maxX + tolerance && other.maxY ≤ r.maxY + tolerance

/-- The nearest coordinate that is a whole number of millimetres. -/
def snap (points : Single) : Single :=
  mmToPoints (pointsToMm points).round

/-- Moves every edge to the nearest whole millimetre. -/
def toNearestMm (r : Rect) : Rect :=
  let x := snap r.x
  let y := snap r.y
  ⟨x, y, snap r.maxX - x, snap r.maxY - y⟩

end Rect

end PageMap
