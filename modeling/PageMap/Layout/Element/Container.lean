import PageMap.Layout.Renderer
/-! # Containers and scopes

Both give the style keys on them to what is inside. A container stacks its children as well; a scope
does nothing else.
-/

namespace PageMap

/-- Where a container places its children. -/
def ContainerElement.area (node : Node) (site : Site) : FlowArea :=
  let origin := site.place node
  { x := origin.x
    top := origin.y
    width := (site.styles.geometry? node "Width").getD (site.availableWidth origin.x)
    height := site.styles.geometry? node "Height" }

def Renderer.container : Renderer where
  render node _ site := .ok
    { pushes := site.styles.declared node
      visitsChildren := true
      flow := some (ContainerElement.area node site) }
  crashes node _ site := site.styles.declaredCrashes node

def Renderer.scope : Renderer where
  render node _ site := .ok { pushes := site.styles.declared node, visitsChildren := true }
  crashes node _ site := site.styles.declaredCrashes node

end PageMap
