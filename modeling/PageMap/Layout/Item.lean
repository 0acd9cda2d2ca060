import PageMap.DrawOp
import PageMap.Typesetting.Composer
/-! # Items

An item is a text or an image with a frame around it. Laying an item out finds the rectangle that
its content takes within the frame. Until then, and again after a change of the frame, the item
is marked as needing layout.
-/

namespace PageMap

/-- A line around an item. -/
structure Border where
  brush : Color
  thickness : Single

/-- Everything about an item except its content. -/
structure Frame where
  container : Rect
  horizontal : HorizontalAlignment
  vertical : VerticalAlignment
  /-- In degrees. -/
  rotation : Single
  background : Option Color
  border : Option Border
  /-- The margin between the container and its content. -/
  padding : Single
  /-- The container is outlined for inspection. -/
  highlight : Bool

namespace Frame

/-- A frame with nothing but a container. -/
def plain (container : Rect) : Frame where
  container
  horizontal := .leading
  vertical := .top
  rotation := 0.0
  background := none
  border := none
  padding := 0.0
  highlight := false

/-- The room inside the padding. -/
def contentRect (f : Frame) : Rect :=
  f.container.inset f.padding

/-- Places content of a size inside an area. An axis that is filled stretches the content. -/
def align (f : Frame) (area : Rect) (size : Size) : Rect :=
  let width := if f.horizontal = .fill then area.width else size.width
  let height := if f.vertical = .fill then area.height else size.height
  { x := area.x + f.horizontal.offset area.width width
    y := area.y + f.vertical.offset area.height height
    width, height }

end Frame

inductive ItemContent where
  /-- A text, and its composition once it is laid out. -/
  | text (content : String) (style : TextStyle) (composed : Option Composed)
  | image (key : String) (intrinsic : Size)

structure Item where
  frame : Frame
  needsLayout : Bool
  /-- The rectangle that the content takes. -/
  used : Rect
  content : ItemContent

namespace Item

/-- An item that is not laid out yet. -/
def ofContent (frame : Frame) (content : ItemContent) : Item :=
  ⟨frame, true, frame.container, content⟩

def text (content : String) (style : TextStyle) (frame : Frame) : Item :=
  ofContent frame (.text content style none)

def image (key : String) (intrinsic : Size) (frame : Frame) : Item :=
  ofContent frame (.image key intrinsic)

/-- Composes a text for the width inside a frame. -/
def composeIn (compose : Composer) (frame : Frame) (content : String) (style : TextStyle) :
    Composed :=
  compose content style (some frame.contentRect.width)

/-- How far an image is scaled down to fit an area. It is never scaled up. -/
def imageScale (area intrinsic : Size) : Single :=
  let scale : Single := 1.0
  let scale :=
    if 0.0 < intrinsic.width then Single.smaller scale (area.width / intrinsic.width) else scale
  let scale :=
    if 0.0 < intrinsic.height then Single.smaller scale (area.height / intrinsic.height) else scale
  Single.larger scale 0.0

/-- The rectangle of an image in a frame. The padding does not count. -/
def imageRect (frame : Frame) (intrinsic : Size) : Rect :=
  let scale := imageScale frame.container.size intrinsic
  frame.align frame.container ⟨intrinsic.width * scale, intrinsic.height * scale⟩

def layout (compose : Composer) (i : Item) : Item :=
  match i.content with
  | .text content style _ =>
      let composed := composeIn compose i.frame content style
      { i with
        needsLayout := false
        used := i.frame.align i.frame.contentRect composed.size
        content := .text content style (some composed) }
  | .image _ intrinsic =>
      { i with needsLayout := false, used := imageRect i.frame intrinsic }

/-- Gives the container of a text the height of the composed text with its padding, and lays the
    item out. -/
def fitHeight (compose : Composer) (i : Item) : Item :=
  match i.content with
  | .text content style _ =>
      let height := (composeIn compose i.frame content style).size.height + 2.0 * i.frame.padding
      let container := { i.frame.container with height }
      { i with frame := { i.frame with container } }.layout compose
  | .image .. => i.layout compose

def setFrame (i : Item) (frame : Frame) : Item :=
  { i with frame, needsLayout := true }

/-- Turns the outline of the container on or off. -/
def setHighlight (i : Item) (highlight : Bool) : Item :=
  { i with frame := { i.frame with highlight } }

/-- Moves the item down. -/
def moveDown (i : Item) (dy : Single) : Item :=
  { i with
    frame := { i.frame with container := i.frame.container.translate 0.0 dy }
    used := i.used.translate 0.0 dy }

def highlightColor : Color := .rgb 255 0 255

def highlightThickness : Single := 0.5

def backgroundOps (i : Item) : List DrawOp :=
  match i.frame.background with
  | some color => [.fillRect i.frame.container color]
  | none => []

/-- The operations that draw the content. A text that was never composed draws nothing. -/
def contentOps (i : Item) : List DrawOp :=
  match i.content with
  | .text content style (some composed) =>
      [.text content composed.lines i.used style.family style.size style.foreground
        i.frame.rotation]
  | .text _ _ none => []
  | .image _ intrinsic => [.image i.used intrinsic i.frame.rotation]

def borderOps (i : Item) : List DrawOp :=
  match i.frame.border with
  | some border =>
      if 0.0 < border.thickness then
        [.strokeRect i.frame.container border.brush border.thickness]
      else []
  | none => []

def highlightOps (i : Item) : List DrawOp :=
  if i.frame.highlight then
    [.strokeRect i.frame.container highlightColor highlightThickness]
  else []

/-- The item as it is after drawing: laid out. -/
def settle (compose : Composer) (i : Item) : Item :=
  if i.needsLayout then i.layout compose else i

def ops (i : Item) : List DrawOp :=
  i.backgroundOps ++ i.contentOps ++ i.borderOps ++ i.highlightOps

/-- Lays the item out if it needs that, and draws it. -/
def draw (compose : Composer) (i : Item) : Item × List DrawOp :=
  let i := i.settle compose
  (i, i.ops)

end Item

end PageMap
