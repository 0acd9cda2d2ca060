import PageMap.Formats
import PageMap.Layout.Flow
import PageMap.Layout.Item
import PageMap.Layout.Resolver
import PageMap.PageSize
/-! # The site of an element

What an element can see of the page when it is placed: the styles in effect, the settings, and the
flow container that it stands in.
-/

namespace PageMap

structure LayoutConfig where
  scales : Scales
  formats : Formats
  /-- The size of the page in points. -/
  pageSize : Size
  /-- The containers of all new items are outlined. -/
  highlight : Bool

/-- Settings for a sheet of A4. -/
def LayoutConfig.default : LayoutConfig :=
  ⟨.default, .default, PageSize.a4.dimensions, false⟩

structure Site where
  styles : Resolver
  config : LayoutConfig
  /-- The innermost flow container. -/
  flow : Option Flow
  /-- How far elements outside of flow containers are moved down. -/
  offset : Single

namespace Site

def services (s : Site) : Services :=
  s.styles.services

/-- The position of an element. In a flow container it is relative to the left edge and to the end
    of what was used, elsewhere to the page. -/
def place (s : Site) (node : Node) : Point :=
  let x := (s.styles.geometry? node "X").getD 0.0
  let y := (s.styles.geometry? node "Y").getD 0.0
  match s.flow with
  | some flow => ⟨flow.x + x, flow.spacing.offset + y⟩
  | none => ⟨x, y + s.offset⟩

/-- The width to the right of a position, as far as the container or the page reaches. -/
def availableWidth (s : Site) (x : Single) : Single :=
  let right := match s.flow with
    | some flow => flow.x + flow.width
    | none => s.config.pageSize.width
  Single.larger (right - x) 0.0

/-- The height of the page below a position. -/
def remainingHeight (s : Site) (y : Single) : Single :=
  Single.larger (s.config.pageSize.height - y) 0.0

/-- The border of an element. It needs a brush and a positive thickness. -/
def border? (s : Site) (node : Node) : Option Border :=
  (s.styles.color? .borderBrush node).bind fun brush =>
    let thickness := s.styles.length .borderThickness node
    if 0.0 < thickness then some ⟨brush, thickness⟩ else none

def frame (s : Site) (node : Node) (container : Rect) : Frame where
  container
  horizontal := s.styles.horizontal node
  vertical := s.styles.vertical node
  rotation := ((s.styles.resolve? .rotation node).bind StyleValue.angle?).getD 0.0
  background := s.styles.color? .borderBackground node
  border := s.border? node
  padding := s.styles.length .textPadding node
  highlight := s.config.highlight

end Site

end PageMap
