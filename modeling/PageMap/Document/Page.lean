import PageMap.Layout.Builder
/-! # Pages
-/

namespace PageMap

/-- A page: its size, the rectangle of its sheet in points, and what was laid out on it. -/
structure Page where
  size : PageSize
  media : Rect
  builder : Builder
  /-- Something was laid out on the page, with success or without. -/
  laidOut : Bool

namespace Page

def sheet (size : Size) : Rect :=
  .ofOrigin ⟨0.0, 0.0⟩ size

/-- An empty page. Its builder has the given settings, except for the size. -/
def new (size : PageSize) (config : LayoutConfig) (services : Services) : Page where
  size
  media := sheet size.dimensions
  builder := .new { config with pageSize := size.dimensions } services
  laidOut := false

def items (p : Page) : List Item :=
  p.builder.items

/-- Gives the page a size in map units. -/
def resize (p : Page) (size : Size) : Page :=
  let points := p.builder.config.scales.sizeToPoints size
  { p with
    size := .custom points
    media := sheet points
    builder := { p.builder with config := { p.builder.config with pageSize := points } } }

def layout (p : Page) (map : Node) (data : Json) : Except LayoutError (List Item) × Page :=
  let (result, builder) := p.builder.layout map data
  (result, { p with builder, laidOut := true })

def load (p : Page) (map : Node) : List String × Page :=
  let (names, builder) := p.builder.load map
  (names, { p with builder })

/-- Changes the frame of the item at an index, if there is one. -/
def editFrame (p : Page) (index : Nat) (edit : Frame → Frame) : Page :=
  let items := p.builder.items.modify index fun item => item.setFrame (edit item.frame)
  { p with builder := { p.builder with items } }

/-- Draws the page between a beginning and an end. -/
def draw (p : Page) (index : Nat) : Page × List DrawOp :=
  let (builder, ops) := p.builder.draw
  ({ p with builder }, .beginPage index p.media.size :: (ops ++ [.endPage index]))

end Page

end PageMap
