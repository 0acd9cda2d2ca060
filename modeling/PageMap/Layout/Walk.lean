import PageMap.Layout.Renderers
/-! # Walking a map

Laying a map out is a walk over its elements from the root down and from left to right. What an
element gives to its children is taken back after them, whether they could be laid out or not. The
walk ends at the first element that is refused.

`walk` tells what a walk comes to that reaches its end. Whether it does is told by `crashes`: the
program ends when it comes to an element that crashes.
-/

namespace PageMap

/-- What stays the same during a walk. -/
structure Setting where
  config : LayoutConfig
  services : Services
  renderers : Renderers
  offset : Single

/-- What a walk changes. -/
structure LayoutState where
  cascade : Cascade
  constants : Dictionary String
  /-- The flow containers around the current element, the innermost first. -/
  flows : List Flow
  items : List Item

namespace LayoutState

def empty : LayoutState := ⟨.empty, .empty, [], []⟩

def resolver (st : LayoutState) (config : LayoutConfig) (services : Services) : Resolver :=
  ⟨st.cascade, st.constants, config.scales, services⟩

/-- Does what an element amounts to, up to its children. -/
def enter (st : LayoutState) (outcome : Outcome) : LayoutState where
  cascade := st.cascade.pushAll outcome.pushes
  constants := st.constants.insertAll outcome.constants
  flows := match outcome.flow with
    | some area => .start area :: st.flows
    | none => st.flows
  items := st.items ++ outcome.items

/-- Takes back what an element gave to its children. -/
def leave (st : LayoutState) (outcome : Outcome) : LayoutState :=
  { st with
    cascade := st.cascade.popAll outcome.pushes
    flows := if outcome.flow.isSome then st.flows.drop 1 else st.flows }

/-- The height that an element takes after its children were laid out. That of a container is its
    own; for others the spacing below the element is added. -/
def consumed? (st : LayoutState) (outcome : Outcome) (spacing increment : Single) :
    Option Single :=
  let nested := if outcome.flow.isSome then st.flows.head?.map Flow.extent else none
  nested.or (outcome.extent.map fun extent => extent + spacing + increment)

/-- Uses up a height in the innermost container, if there are both. -/
def consume (st : LayoutState) (amount : Option Single) : LayoutState :=
  match amount, st.flows with
  | some amount, flow :: flows => { st with flows := flow.add amount :: flows }
  | _, _ => st

end LayoutState

namespace Setting

def site (s : Setting) (st : LayoutState) : Site where
  styles := st.resolver s.config s.services
  config := s.config
  flow := st.flows.head?
  offset := s.offset

mutual

/-- Lays out an element and what is inside it. -/
def walk (s : Setting) (data : Json) : Node → LayoutState → Except LayoutError Unit × LayoutState
  | ⟨name, attributes, children, text⟩, st =>
      let node : Node := ⟨name, attributes, children, text⟩
      let site := s.site st
      let spacing := site.styles.length .ySpacing node
      let increment := site.styles.length .yIncrement node
      match s.renderers.render node data site with
      | .error e => (.error e, st)
      | .ok outcome =>
          let entered := st.enter outcome
          let (result, inner) :=
            if outcome.visitsChildren then s.walkAll data children entered else (.ok (), entered)
          let left := inner.leave outcome
          match result with
          | .error e => (.error e, left)
          | .ok () => (.ok (), left.consume (inner.consumed? outcome spacing increment))

/-- Lays out elements one after the other. -/
def walkAll (s : Setting) (data : Json) :
    List Node → LayoutState → Except LayoutError Unit × LayoutState
  | [], st => (.ok (), st)
  | node :: rest, st =>
      match s.walk data node st with
      | (.error e, st) => (.error e, st)
      | (.ok (), st) => s.walkAll data rest st

end

mutual

/-- The walk of an element comes to one that crashes. -/
def crashes (s : Setting) (data : Json) : Node → LayoutState → Bool
  | ⟨name, attributes, children, text⟩, st =>
      let node : Node := ⟨name, attributes, children, text⟩
      let site := s.site st
      s.renderers.crashes node data site ||
        match s.renderers.render node data site with
        | .error _ => false
        | .ok outcome => outcome.visitsChildren && s.crashesAll data children (st.enter outcome)

/-- The walk of elements one after the other comes to one that crashes. -/
def crashesAll (s : Setting) (data : Json) : List Node → LayoutState → Bool
  | [], _ => false
  | node :: rest, st =>
      s.crashes data node st ||
        match s.walk data node st with
        | (.error _, _) => false
        | (.ok (), st) => s.crashesAll data rest st

end

end Setting

namespace Renderers

mutual

/-- The constants that a map defines, in the order of the document. -/
def constants (r : Renderers) : Node → List (String × String)
  | ⟨name, attributes, children, text⟩ =>
      r.load ⟨name, attributes, children, text⟩ ++ r.constantsAll children

/-- The constants that a list of elements defines. -/
def constantsAll (r : Renderers) : List Node → List (String × String)
  | [] => []
  | node :: rest => r.constants node ++ r.constantsAll rest

end

end Renderers

end PageMap
