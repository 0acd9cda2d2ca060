import PageMap.Layout.Error
import PageMap.Layout.Site
/-! # Renderers

A renderer knows what the elements of one tag name amount to. It sees the element, the data and the
site, and its answer is all that it does.
-/

namespace PageMap

/-- What an element amounts to. -/
structure Outcome where
  items : List Item := []
  /-- Values that are in effect inside the element. -/
  pushes : List (StyleKey × StyleValue) := []
  /-- The children are laid out as well. -/
  visitsChildren : Bool := false
  /-- The element is a flow container. -/
  flow : Option FlowArea := none
  /-- The height that the element takes in the container around it. -/
  extent : Option Single := none
  /-- Constants that the element defines. -/
  constants : List (String × String) := []

namespace Outcome

def nothing : Outcome := {}

/-- Nothing but the children. -/
def passThrough : Outcome := { visitsChildren := true }

def ofItem (item : Item) (extent : Single) : Outcome :=
  { items := [item], extent := some extent }

end Outcome

/-- Handles the elements of one tag name. -/
structure Renderer where
  render : Node → Json → Site → Except LayoutError Outcome
  /-- Rendering an element crashes, as one of the texts that it reads does. Then there is no
      outcome. -/
  crashes : Node → Json → Site → Bool := fun _ _ _ => false
  /-- The constants that an element defines when nothing else of it is wanted. -/
  load : Node → List (String × String) := fun _ => []

end PageMap
