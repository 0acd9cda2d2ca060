import PageMap.Proofs.Resolution
import PageMap.Proofs.Visits
/-! # Styles are scoped lexically

A walk pushes values on stacks and pops them again. What an element sees of a key can be told from
the map without any stack: it is decided by the elements around it, and constants by the elements in
front of it. An interpreter that hands each element what is around it, and takes nothing back, lays
out the same items.
-/

namespace PageMap

namespace Setting

/-- A resolver for reading values, with nothing around it. -/
def blank (s : Setting) : Resolver :=
  LayoutState.empty.resolver s.config s.services

/-- The value that an element gives to a key in what is inside of it. -/
def scoped? (s : Setting) (node : Node) (key : StyleKey) : Option StyleValue :=
  if node.kind.cascades then s.blank.given? node key else none

/-- What a key means inside of elements, the innermost first: the value of the nearest one that
    gives any, or else the value outside of all of them, or else the constant of that name if it can
    be read, or else the default. -/
def meaning? (s : Setting) (outside : Cascade) (constants : Dictionary String)
    (ancestors : List Node) (key : StyleKey) : Option StyleValue :=
  let constant := (constants.get? key.name).bind fun raw => (s.blank.read key raw).toOption
  (((ancestors.findSome? fun node => s.scoped? node key).or (outside.top? key)).or constant).or
    key.default?

theorem inherited?_eq_meaning? {s : Setting} {st : LayoutState} {outside : Cascade}
    {constants : Dictionary String} {ancestors : List Node} {key : StyleKey}
    (top : st.cascade.top? key =
      (ancestors.findSome? fun node => s.scoped? node key).or (outside.top? key))
    (defined : st.constants = constants) :
    (s.site st).styles.inherited? key = s.meaning? outside constants ancestors key := by
  subst defined
  have inner : (s.site st).styles.cascade.top? key = st.cascade.top? key := rfl
  simp only [Resolver.inherited?, meaning?, ← top, inner]
  cases st.cascade.top? key <;> rfl

end Setting

/-- The constants that the element of a visit defines. -/
def Visit.definitions (v : Visit) : List (String × String) :=
  if v.node.kind = .constants then ConstantsElement.entries v.node else []

namespace Setting

variable {s : Setting} (data : Json)

theorem top?_opened (node : Node) (st : LayoutState) (key : StyleKey) :
    (s.opened data node st).cascade.top? key =
      (s.scoped? node key).or (st.cascade.top? key) := by
  simp only [opened, LayoutState.enter, ElementKind.outcome_pushes, scoped?]
  cases node.kind.cascades with
  | false => rfl
  | true => exact Resolver.top?_pushAll_declared (s.site st).styles st.cascade node key

theorem maintained_scopes (builtin : s.renderers = .builtin) (outside : Cascade) :
    s.Maintained data fun around st => ∀ key, st.cascade.top? key =
      ((around.map (·.node)).findSome? fun node => s.scoped? node key).or (outside.top? key) where
  enter {around node st outcome} rendered _ before key := by
    obtain rfl := outcome_of_render data builtin rendered
    have inside := top?_opened data node st key (s := s)
    rw [opened] at inside
    rw [inside, before key, List.map_cons, List.findSome?_cons]
    cases s.scoped? node key <;> rfl
  next {here around node st after} walked before key := by
    have kept := (s.walk_kept data node st).cascade
    rw [walked] at kept
    rw [kept]
    exact before key

mutual

theorem visits_definitions (builtin : s.renderers = .builtin) (around : List Enclosing)
    (node : Node) (st : LayoutState) :
    (s.visits data around node st).flatMap Visit.definitions = node.definitions := by
  rw [visits_builtin data builtin, Node.definitions_eq, List.flatMap_cons]
  congr 1
  cases node.kind.descends with
  | false => rfl
  | true => exact visitsAll_definitions builtin _ around node.children _
termination_by sizeOf node
decreasing_by exact node.sizeOf_children_lt

theorem visitsAll_definitions (builtin : s.renderers = .builtin) (here : Enclosing)
    (around : List Enclosing) (nodes : List Node) (st : LayoutState) :
    (s.visitsAll data here around nodes st).flatMap Visit.definitions =
      Node.definitionsAll nodes := by
  cases nodes with
  | nil => rfl
  | cons node rest =>
      rw [visitsAll_builtin data builtin, List.flatMap_append, visits_definitions builtin _ node,
        visitsAll_definitions builtin _ around rest, Node.definitionsAll]
termination_by sizeOf nodes

end

mutual

/-- The constants at a visit are those of the visits before it. -/
theorem visits_constants (builtin : s.renderers = .builtin) (around : List Enclosing)
    (node : Node) (st : LayoutState) (i : Nat) (v : Visit)
    (visited : (s.visits data around node st)[i]? = some v) :
    v.state.constants = st.constants.insertAll
      (((s.visits data around node st).take i).flatMap Visit.definitions) := by
  rw [visits_builtin data builtin] at visited ⊢
  cases i with
  | zero =>
      obtain rfl := Option.some.inj visited
      rfl
  | succ i =>
      rw [List.take_succ_cons, List.flatMap_cons, Dictionary.insertAll_append]
      rw [List.getElem?_cons_succ] at visited
      cases descends : node.kind.descends with
      | false => simp [descends] at visited
      | true =>
          rw [descends] at visited
          have entered : (s.opened data node st).constants = st.constants.insertAll
              (Visit.definitions ⟨node, st, around⟩) := by
            simp only [opened, LayoutState.enter, ElementKind.outcome_constants, Visit.definitions]
          rw [← entered]
          exact visitsAll_constants builtin _ around node.children _ i v visited
termination_by sizeOf node
decreasing_by exact node.sizeOf_children_lt

theorem visitsAll_constants (builtin : s.renderers = .builtin) (here : Enclosing)
    (around : List Enclosing) (nodes : List Node) (st : LayoutState) (i : Nat) (v : Visit)
    (visited : (s.visitsAll data here around nodes st)[i]? = some v) :
    v.state.constants = st.constants.insertAll
      (((s.visitsAll data here around nodes st).take i).flatMap Visit.definitions) := by
  cases nodes with
  | nil => simp [visitsAll] at visited
  | cons node rest =>
      rw [visitsAll_builtin data builtin] at visited ⊢
      rw [List.take_append]
      -- the visit is in the first element, or all visits of that one are before it
      rcases Nat.lt_or_ge i (s.visits data (here :: around) node st).length with inFirst | later
      · rw [List.getElem?_append_left inFirst] at visited
        rw [Nat.sub_eq_zero_of_le (Nat.le_of_lt inFirst), List.take_zero, List.append_nil]
        exact visits_constants builtin _ node st i v visited
      · rw [List.getElem?_append_right later] at visited
        rw [List.take_of_length_le later, List.flatMap_append, visits_definitions data builtin,
          Dictionary.insertAll_append, ← walk_constants data builtin]
        exact visitsAll_constants builtin _ around rest _ _ v visited
termination_by sizeOf nodes

end

end Setting

end PageMap
