import PageMap.Layout.Renderer
/-! # Constants

Each child of a constants element defines the constant of its name.
-/

namespace PageMap

namespace ConstantsElement

/-- The value that an element gives to the constant of its name: an attribute, or its text. -/
def value (node : Node) : String :=
  (node.attr? "Value").getD (Text.cleanContent node.text true)

/-- The constants that an element defines, in order. -/
def entries (node : Node) : List (String × String) :=
  node.children.map fun child => (child.name, value child)

end ConstantsElement

def Renderer.constants : Renderer where
  render node _ _ := .ok { constants := ConstantsElement.entries node }
  load := ConstantsElement.entries

end PageMap
