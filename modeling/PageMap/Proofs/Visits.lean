import PageMap.Proofs.Builtin
/-! # The visits of a walk

A walk comes to the elements of a map one after the other. A visit says which element, in which
state, and how far the elements around it have got. Statements about what an element sees are
statements about all visits. `Setting.walk_eq_of_visits` ties them to the walk: what renderers answer
anywhere else has no influence on it.
-/

namespace PageMap

/-- An element whose children are being laid out. -/
structure Enclosing where
  node : Node
  /-- The state before the element. -/
  state : LayoutState
  /-- Its children that are done, each with the state before it. -/
  done : List (Node × LayoutState)

/-- The same element when one more of its children is done. -/
def Enclosing.finish (e : Enclosing) (child : Node) (st : LayoutState) : Enclosing :=
  { e with done := e.done ++ [(child, st)] }

/-- An element as a walk comes to it. -/
structure Visit where
  node : Node
  /-- The state before the element. -/
  state : LayoutState
  /-- The elements around it, the innermost first. -/
  around : List Enclosing

namespace Setting

mutual

/-- The visits of the walk of an element, in the order of the walk. -/
def visits (s : Setting) (data : Json) (around : List Enclosing) :
    Node → LayoutState → List Visit
  | ⟨name, attributes, children, text⟩, st =>
      let node : Node := ⟨name, attributes, children, text⟩
      ⟨node, st, around⟩ ::
        match s.renderers.render node data (s.site st) with
        | .error _ => []
        | .ok outcome =>
            if outcome.visitsChildren then
              s.visitsAll data ⟨node, st, []⟩ around children (st.enter outcome)
            else []

def visitsAll (s : Setting) (data : Json) (here : Enclosing) (around : List Enclosing) :
    List Node → LayoutState → List Visit
  | [], _ => []
  | node :: rest, st =>
      s.visits data (here :: around) node st ++
        match s.walk data node st with
        | (.error _, _) => []
        | (.ok (), after) => s.visitsAll data (here.finish node st) around rest after

end

end Setting

def Builder.visits (b : Builder) (map : Node) (data : Json) : List Visit :=
  b.toSetting.visits data [] map b.toLayoutState

namespace Setting

section Steps

variable {s : Setting} {data : Json} {around : List Enclosing} {node : Node} {st : LayoutState}
  {outcome : Outcome} {e : LayoutError}

theorem visits_refused (h : s.renderers.render node data (s.site st) = .error e) :
    s.visits data around node st = [⟨node, st, around⟩] := by
  obtain ⟨name, attributes, children, text⟩ := node
  simp only [visits, h]

theorem visits_entered (h : s.renderers.render node data (s.site st) = .ok outcome) :
    s.visits data around node st = ⟨node, st, around⟩ ::
      if outcome.visitsChildren then
        s.visitsAll data ⟨node, st, []⟩ around node.children (st.enter outcome)
      else [] := by
  obtain ⟨name, attributes, children, text⟩ := node
  simp only [visits, h]

end Steps

variable (s : Setting) (data : Json) (r : Renderers)

theorem self_mem_visits (around : List Enclosing) (node : Node) (st : LayoutState) :
    ⟨node, st, around⟩ ∈ s.visits data around node st := by
  cases h : s.renderers.render node data (s.site st) with
  | error e => rw [visits_refused h]; exact List.mem_singleton.mpr rfl
  | ok outcome => rw [visits_entered h]; exact List.mem_cons_self

mutual

/-- The renderers are asked about the visited elements and about nothing else: other renderers that
    give the same answers there lead to the same walk. -/
theorem walk_eq_of_visits (around : List Enclosing) (node : Node) (st : LayoutState)
    (same : ∀ v ∈ s.visits data around node st,
      r.render v.node data (s.site v.state) = s.renderers.render v.node data (s.site v.state)) :
    { s with renderers := r }.walk data node st = s.walk data node st := by
  have here := same _ (s.self_mem_visits data around node st)
  cases h : s.renderers.render node data (s.site st) with
  | error e =>
      rw [walk_refused h, walk_refused (s := { s with renderers := r }) (here.trans h)]
  | ok outcome =>
      rw [visits_entered h] at same
      have inside : { s with renderers := r }.walkInside data outcome node.children st =
          s.walkInside data outcome node.children st := by
        simp only [walkInside]
        split
        · rename_i descends
          refine walkAll_eq_of_visits ⟨node, st, []⟩ around node.children _ fun v visited => ?_
          exact same v (List.mem_cons_of_mem _ (by rwa [if_pos descends]))
        · rfl
      rcases hinside : s.walkInside data outcome node.children st with ⟨e | ⟨⟩, inner⟩ <;>
        rw [hinside] at inside
      · rw [walk_refusedInside h hinside,
          walk_refusedInside (s := { s with renderers := r }) (here.trans h) inside]
      · rw [walk_done h hinside, walk_done (s := { s with renderers := r }) (here.trans h) inside]
        rfl
termination_by sizeOf node
decreasing_by exact node.sizeOf_children_lt

theorem walkAll_eq_of_visits (here : Enclosing) (around : List Enclosing) (nodes : List Node)
    (st : LayoutState)
    (same : ∀ v ∈ s.visitsAll data here around nodes st,
      r.render v.node data (s.site v.state) = s.renderers.render v.node data (s.site v.state)) :
    { s with renderers := r }.walkAll data nodes st = s.walkAll data nodes st := by
  cases nodes with
  | nil => rfl
  | cons node rest =>
      simp only [visitsAll, List.mem_append] at same
      have first := walk_eq_of_visits (here :: around) node st fun v visited =>
        same v (.inl visited)
      rcases h : s.walk data node st with ⟨e | ⟨⟩, after⟩ <;> rw [h] at first <;>
        simp only [walkAll, h, first]
      exact walkAll_eq_of_visits (here.finish node st) around rest after fun v visited =>
        same v (.inr (by rwa [h]))
termination_by sizeOf nodes

end

/-! ### Invariants -/

/-- Kept on the way into an element, and from a child that is done to the next one. -/
structure Maintained (s : Setting) (data : Json) (holds : List Enclosing → LayoutState → Prop) :
    Prop where
  enter {around : List Enclosing} {node : Node} {st : LayoutState} {outcome : Outcome} :
    s.renderers.render node data (s.site st) = .ok outcome → outcome.visitsChildren = true →
      holds around st → holds (⟨node, st, []⟩ :: around) (st.enter outcome)
  next {here : Enclosing} {around : List Enclosing} {node : Node} {st after : LayoutState} :
    s.walk data node st = (.ok (), after) → holds (here :: around) st →
      holds (here.finish node st :: around) after

variable {s : Setting} {data : Json} {holds : List Enclosing → LayoutState → Prop}

mutual

/-- What is maintained and holds before an element holds at all visits in it. -/
theorem visits_invariant (maintained : s.Maintained data holds) (around : List Enclosing)
    (node : Node) (st : LayoutState) (start : holds around st) :
    ∀ v ∈ s.visits data around node st, holds v.around v.state := by
  intro v visited
  cases h : s.renderers.render node data (s.site st) with
  | error e =>
      rw [visits_refused h] at visited
      obtain rfl := List.mem_singleton.mp visited
      exact start
  | ok outcome =>
      rw [visits_entered h] at visited
      rcases List.mem_cons.mp visited with rfl | inside
      · exact start
      · split at inside
        · rename_i descends
          exact visitsAll_invariant maintained ⟨node, st, []⟩ around node.children _
            (maintained.enter h descends start) v inside
        · simp at inside
termination_by sizeOf node
decreasing_by exact node.sizeOf_children_lt

theorem visitsAll_invariant (maintained : s.Maintained data holds) (here : Enclosing)
    (around : List Enclosing) (nodes : List Node) (st : LayoutState)
    (start : holds (here :: around) st) :
    ∀ v ∈ s.visitsAll data here around nodes st, holds v.around v.state := by
  intro v visited
  cases nodes with
  | nil => simp [visitsAll] at visited
  | cons node rest =>
      simp only [visitsAll, List.mem_append] at visited
      rcases visited with first | later
      · exact visits_invariant maintained (here :: around) node st start v first
      · rcases h : s.walk data node st with ⟨e | ⟨⟩, after⟩ <;> rw [h] at later
        · simp at later
        · exact visitsAll_invariant maintained (here.finish node st) around rest after
            (maintained.next h start) v later
termination_by sizeOf nodes

end

end Setting

/-! ### Paths

With the built-in renderers the map alone decides which elements are visited. -/

/-- An element on a walk and those around it, up to the root. -/
def Visit.path (v : Visit) : List Node :=
  v.node :: v.around.map (·.node)

/-- A path in a map: it goes up from a child to the element that the child stands in, and ends at
    the root. -/
inductive Node.IsPath (map : Node) : List Node → Prop where
  | root : IsPath map [map]
  | child {inner node : Node} {outer : List Node} :
      inner ∈ node.children → IsPath map (node :: outer) → IsPath map (inner :: node :: outer)

mutual

/-- The elements that a walk comes to, in the order of the document. -/
def Node.reached : Node → List Node
  | ⟨name, attributes, children, text⟩ =>
      ⟨name, attributes, children, text⟩ ::
        if (ElementKind.ofName name).descends then Node.reachedAll children else []

def Node.reachedAll : List Node → List Node
  | [] => []
  | node :: rest => node.reached ++ Node.reachedAll rest

end

theorem Node.reached_eq (node : Node) : node.reached =
    node :: if node.kind.descends then reachedAll node.children else [] := by
  obtain ⟨name, attributes, children, text⟩ := node
  rw [reached]
  rfl

namespace Setting

variable {s : Setting} (data : Json)

theorem visits_builtin (builtin : s.renderers = .builtin) (around : List Enclosing) (node : Node)
    (st : LayoutState) : s.visits data around node st = ⟨node, st, around⟩ ::
      if node.kind.descends then
        s.visitsAll data ⟨node, st, []⟩ around node.children (s.opened data node st)
      else [] := by
  rw [visits_entered (render_builtin data builtin node st), ElementKind.outcome_visitsChildren]
  rfl

theorem visitsAll_builtin (builtin : s.renderers = .builtin) (here : Enclosing)
    (around : List Enclosing) (node : Node) (rest : List Node) (st : LayoutState) :
    s.visitsAll data here around (node :: rest) st =
      s.visits data (here :: around) node st ++
        s.visitsAll data (here.finish node st) around rest (s.walk data node st).2 := by
  have walked : s.walk data node st = (.ok (), (s.walk data node st).2) :=
    Prod.ext (walk_ok data builtin node st) rfl
  rw [visitsAll, walked]

mutual

theorem visits_reached (builtin : s.renderers = .builtin) (around : List Enclosing) (node : Node)
    (st : LayoutState) : (s.visits data around node st).map (·.node) = node.reached := by
  rw [visits_builtin data builtin, Node.reached_eq, List.map_cons]
  cases node.kind.descends with
  | false => rfl
  | true => exact congrArg (node :: ·) (visitsAll_reached builtin _ around node.children _)
termination_by sizeOf node
decreasing_by exact node.sizeOf_children_lt

theorem visitsAll_reached (builtin : s.renderers = .builtin) (here : Enclosing)
    (around : List Enclosing) (nodes : List Node) (st : LayoutState) :
    (s.visitsAll data here around nodes st).map (·.node) = Node.reachedAll nodes := by
  cases nodes with
  | nil => rfl
  | cons node rest =>
      rw [visitsAll_builtin data builtin, List.map_append, visits_reached builtin _ node,
        visitsAll_reached builtin _ around rest, Node.reachedAll]
termination_by sizeOf nodes

end

mutual

theorem visits_path (builtin : s.renderers = .builtin) {map : Node} (around : List Enclosing)
    (node : Node) (st : LayoutState) (path : map.IsPath (node :: around.map (·.node))) :
    ∀ v ∈ s.visits data around node st, map.IsPath v.path := by
  intro v visited
  rw [visits_builtin data builtin] at visited
  rcases List.mem_cons.mp visited with rfl | inside
  · exact path
  · split at inside
    · exact visitsAll_path builtin ⟨node, st, []⟩ around node.children _
        (fun child member => .child member path) v inside
    · simp at inside
termination_by sizeOf node
decreasing_by exact node.sizeOf_children_lt

theorem visitsAll_path (builtin : s.renderers = .builtin) {map : Node} (here : Enclosing)
    (around : List Enclosing) (nodes : List Node) (st : LayoutState)
    (paths : ∀ node ∈ nodes, map.IsPath (node :: here.node :: around.map (·.node))) :
    ∀ v ∈ s.visitsAll data here around nodes st, map.IsPath v.path := by
  intro v visited
  cases nodes with
  | nil => simp [visitsAll] at visited
  | cons node rest =>
      rw [visitsAll_builtin data builtin] at visited
      rcases List.mem_append.mp visited with first | later
      · exact visits_path builtin (here :: around) node st (paths node List.mem_cons_self) v first
      · exact visitsAll_path builtin (here.finish node st) around rest _
          (fun other member => paths other (List.mem_cons_of_mem _ member)) v later
termination_by sizeOf nodes

end

end Setting

/-! ### Items

Every item of a walk was left by the element of one visit. -/

namespace Setting

/-- The items that the element of a visit itself amounts to. -/
def itemsAt (s : Setting) (data : Json) (v : Visit) : List Item :=
  match s.renderers.render v.node data (s.site v.state) with
  | .error _ => []
  | .ok outcome => outcome.items

variable {s : Setting} (data : Json)

theorem itemsAt_builtin (builtin : s.renderers = .builtin) (v : Visit) :
    s.itemsAt data v = (v.node.kind.outcome v.node data (s.site v.state)).items := by
  rw [itemsAt, render_builtin data builtin]

variable (s)

mutual

theorem walk_items (around : List Enclosing) (node : Node) (st : LayoutState) :
    (s.walk data node st).2.items =
      st.items ++ (s.visits data around node st).flatMap (s.itemsAt data) := by
  cases h : s.renderers.render node data (s.site st) with
  | error e =>
      rw [walk_refused h, visits_refused h]
      simp only [List.flatMap_cons, List.flatMap_nil, itemsAt, h, List.append_nil]
  | ok outcome =>
      have own : s.itemsAt data ⟨node, st, around⟩ = outcome.items := by
        simp only [itemsAt, h]
      have inside : (s.walkInside data outcome node.children st).2.items =
          st.items ++ (s.visits data around node st).flatMap (s.itemsAt data) := by
        rw [visits_entered h, List.flatMap_cons, own, ← List.append_assoc, walkInside]
        split
        · exact walkAll_items ⟨node, st, []⟩ around node.children _
        · exact (List.append_nil _).symm
      -- an element that is refused inside keeps what it has laid out until then
      rcases hinside : s.walkInside data outcome node.children st with ⟨e | ⟨⟩, inner⟩ <;>
        rw [hinside] at inside
      · rw [walk_refusedInside h hinside]
        exact inside
      · rw [walk_done h hinside, LayoutState.consume_items]
        exact inside
termination_by sizeOf node
decreasing_by exact node.sizeOf_children_lt

theorem walkAll_items (here : Enclosing) (around : List Enclosing) (nodes : List Node)
    (st : LayoutState) :
    (s.walkAll data nodes st).2.items =
      st.items ++ (s.visitsAll data here around nodes st).flatMap (s.itemsAt data) := by
  cases nodes with
  | nil => exact (List.append_nil _).symm
  | cons node rest =>
      have first := walk_items (here :: around) node st
      rw [visitsAll, List.flatMap_append, ← List.append_assoc, ← first]
      rcases h : s.walk data node st with ⟨e | ⟨⟩, after⟩ <;> simp only [walkAll, h]
      · exact (List.append_nil _).symm
      · exact walkAll_items (here.finish node st) around rest after
termination_by sizeOf nodes

end

end Setting

/-- What a layout places: each new item with the visit whose element left it, in order. -/
def Builder.placements (b : Builder) (map : Node) (data : Json) : List (Visit × Item) :=
  (b.visits map data).flatMap fun v => (b.toSetting.itemsAt data v).map fun item => (v, item)

theorem Builder.mem_placements {b : Builder} {map : Node} {data : Json} {v : Visit} {i : Item} :
    (v, i) ∈ b.placements map data ↔
      v ∈ b.visits map data ∧ i ∈ b.toSetting.itemsAt data v := by
  simp [placements]

theorem Builder.layout_placements (b : Builder) (builtin : b.renderers = .builtin) (map : Node)
    (data : Json) : (b.layout map data).1 = .ok ((b.placements map data).map (·.2)) := by
  have ok := b.toSetting.walk_ok data builtin map b.toLayoutState
  have items := b.toSetting.walk_items data [] map b.toLayoutState
  have placed : (b.placements map data).map (·.2) =
      (b.visits map data).flatMap (b.toSetting.itemsAt data) := by
    simp only [placements, List.map_flatMap, List.map_map, Function.comp_def, List.map_id']
  simp only [layout, ok, items, List.drop_left, placed]
  rfl

end PageMap
