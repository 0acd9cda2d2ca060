import PageMap.Single
/-! # Flow containers

Inside a flow container elements are stacked from the top down. The container keeps count of the
height that its elements have used.
-/

namespace PageMap

/-- The height used below a base. It never decreases. -/
structure Spacing where
  base : Single
  usage : Single

namespace Spacing

/-- Nothing used below a base. -/
def start (base : Single) : Spacing := ⟨base, 0.0⟩

/-- Where the next element begins. -/
def offset (s : Spacing) : Single :=
  s.base + s.usage

/-- Uses up an amount; one that is not positive is ignored. -/
def add (s : Spacing) (amount : Single) : Spacing :=
  if 0.0 < amount then { s with usage := s.usage + amount } else s

end Spacing

/-- Where a container places what is inside it. -/
structure FlowArea where
  x : Single
  top : Single
  width : Single
  /-- A height that the container takes whatever is inside it. -/
  height : Option Single

/-- A container whose children are being laid out. -/
structure Flow where
  x : Single
  width : Single
  height : Option Single
  spacing : Spacing

namespace Flow

/-- A container that has used nothing yet. -/
def start (area : FlowArea) : Flow :=
  ⟨area.x, area.width, area.height, .start area.top⟩

/-- The height that the container takes in the one around it. -/
def extent (f : Flow) : Single :=
  f.height.getD f.spacing.usage

def add (f : Flow) (amount : Single) : Flow :=
  { f with spacing := f.spacing.add amount }

end Flow

end PageMap
