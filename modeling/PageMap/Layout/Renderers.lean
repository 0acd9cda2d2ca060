import PageMap.Layout.Element.Constants
import PageMap.Layout.Element.Container
import PageMap.Layout.Element.Image
import PageMap.Layout.Element.Text
/-! # Renderers by tag name
-/

namespace PageMap

/-- Renderers by the tag names that they handle. Names are case-sensitive. -/
abbrev Renderers := Dictionary Renderer

namespace Renderers

def builtin : Renderers where
  entries :=
    [("Text", .text .own), ("Property", .text .binding), ("Image", .image),
      ("Container", .container), ("StackPanel", .container), ("Group", .scope), ("Style", .scope),
      ("Constants", .constants)]
  distinct := by decide

/-- The tag names in the order of their characters. -/
def sortedNames (r : Renderers) : List String :=
  r.names.mergeSort fun a b => decide (a ≤ b)

/-- What an element amounts to. One whose tag name is unknown amounts to its children. -/
def render (r : Renderers) (node : Node) (data : Json) (site : Site) :
    Except LayoutError Outcome :=
  match r.get? node.name with
  | some renderer => renderer.render node data site
  | none => .ok .passThrough

/-- Rendering an element crashes. -/
def crashes (r : Renderers) (node : Node) (data : Json) (site : Site) : Bool :=
  (r.get? node.name).any fun renderer => renderer.crashes node data site

/-- The constants that an element itself defines. -/
def load (r : Renderers) (node : Node) : List (String × String) :=
  match r.get? node.name with
  | some renderer => renderer.load node
  | none => []

end Renderers

end PageMap
