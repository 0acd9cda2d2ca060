import PageMap.Layout.Renderer
/-! # Image elements

An image element shows the image of a key, which it gives itself or takes from the data.
-/

namespace PageMap

namespace ImageElement

def key? (node : Node) (data : Json) (site : Site) : Option String :=
  match node.attr? "Source" with
  | some source => some (Text.trim source)
  | none => (site.styles.keyPath? node).bind fun path =>
      (site.services.field path data).map Json.Scalar.display

/-- The key of the image with its size, if there is such an image. -/
def image? (node : Node) (data : Json) (site : Site) : Option (String × Size) :=
  (key? node data site).bind fun key =>
    (site.services.image key data).toOption.map fun size => (key, size)

/-- The size of the container: an extent that is not given follows from the other one and the
    proportions of the image. -/
def containerSize (intrinsic : Size) (width height : Option Single) : Size :=
  let aspect := if 0.0 < intrinsic.width then intrinsic.height / intrinsic.width else 0.0
  match width, height with
  | some w, some h => ⟨w, h⟩
  | some w, none => ⟨w, w * aspect⟩
  | none, some h => ⟨if 0.0 < aspect then h / aspect else intrinsic.width, h⟩
  | none, none => intrinsic

/-- An image element amounts to its image, if there is one. -/
def outcome (node : Node) (data : Json) (site : Site) : Outcome :=
  match image? node data site with
  | none => .nothing
  | some (key, intrinsic) =>
      let size := containerSize intrinsic (site.styles.geometry? node "Width")
        (site.styles.geometry? node "Height")
      .ofItem (.image key intrinsic (site.frame node (.ofOrigin (site.place node) size)))
        size.height

end ImageElement

def Renderer.image : Renderer where
  render node data site := .ok (ImageElement.outcome node data site)

end PageMap
