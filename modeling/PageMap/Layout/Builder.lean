import PageMap.Layout.Walk
/-! # Page builders

A builder holds what was laid out on one page, together with the settings of that page and the
constants and cascaded values that later walks will see.
-/

namespace PageMap

structure Builder extends Setting, LayoutState

namespace Builder

/-- A builder with the built-in renderers and an empty page. -/
def new (config : LayoutConfig) (services : Services) : Builder where
  toSetting := ⟨config, services, .builtin, 0.0⟩
  toLayoutState := .empty

def readKey (name : String) : Except LayoutError StyleKey :=
  match StyleKey.ofName? name with
  | some key => .ok key
  | none => .error (.unknownStyleKey name)

/-- The styles in effect between walks. -/
def resolver (b : Builder) : Resolver :=
  b.toLayoutState.resolver b.config b.services

/-- Gives a value to everything that is laid out from now on. -/
def push (b : Builder) (name raw : String) : Except LayoutError Builder := do
  let key ← readKey name
  let value ← (b.resolver.read key raw).mapError .ofStyle
  return { b with cascade := b.cascade.push key value }

/-- Takes the value in effect of a key back and gives it. -/
def pop (b : Builder) (name : String) : Except LayoutError (Option StyleValue × Builder) := do
  let key ← readKey name
  return (b.cascade.top? key, { b with cascade := b.cascade.pop key })

/-- Registers a renderer, in place of an earlier one of the same tag name. -/
def register (b : Builder) (name : String) (renderer : Renderer) : Builder :=
  { b with renderers := b.renderers.insert name renderer }

/-- Takes in the constants of a map and nothing else. Gives their names in order. -/
def load (b : Builder) (map : Node) : List String × Builder :=
  let entries := b.renderers.constants map
  (entries.map (·.1), { b with constants := b.constants.insertAll entries })

/-- Lays a map out with data and gives the new items. If an element is refused, the items before it
    stay on the page. -/
def layout (b : Builder) (map : Node) (data : Json) : Except LayoutError (List Item) × Builder :=
  let (result, st) := b.toSetting.walk data map b.toLayoutState
  (result.map fun () => st.items.drop b.items.length, { b with toLayoutState := st })

/-- Laying a map out with data crashes. Then `layout` does not come to an end. -/
def crashes (b : Builder) (map : Node) (data : Json) : Bool :=
  b.toSetting.crashes data map b.toLayoutState

def append (b : Builder) (item : Item) : Item × Builder :=
  (item, { b with items := b.items ++ [item] })

/-- The site of an item that stands outside of all containers. -/
def bareSite (b : Builder) : Site :=
  { b.toSetting.site b.toLayoutState with flow := none }

/-- Appends a text in a rectangle, in the style in effect. -/
def addText (b : Builder) (text : String) (rect : Rect) : Item × Builder :=
  let node := Node.bare "Text"
  let site := b.bareSite
  b.append (.text text (site.styles.textStyle node) (site.frame node rect))

/-- Appending a text crashes, whatever the text. -/
def addTextCrashes (b : Builder) : Bool :=
  b.bareSite.styles.textStyleCrashes (.bare "Text")

/-- Appends an image in a rectangle, with the frame in effect. -/
def addImage (b : Builder) (key : String) (intrinsic : Size) (rect : Rect) : Item × Builder :=
  b.append (.image key intrinsic (b.bareSite.frame (.bare "Image") rect))

/-- Turns the outlines of containers on or off, for old items and new ones. -/
def setHighlight (b : Builder) (highlight : Bool) : Builder :=
  { b with
    config := { b.config with highlight }
    items := b.items.map fun item => item.setHighlight highlight }

/-- Lays out every item that needs it and draws all items in order. -/
def draw (b : Builder) : Builder × List DrawOp :=
  ({ b with items := b.items.map (Item.settle b.services.compose) },
    b.items.flatMap fun item => (item.draw b.services.compose).2)

/-- Empties the page; the settings and the renderers stay. -/
def reset (b : Builder) : Builder :=
  { b with toLayoutState := .empty, offset := 0.0 }

end Builder

end PageMap
