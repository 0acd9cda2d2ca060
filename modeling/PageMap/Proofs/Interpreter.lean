import PageMap.Proofs.LexicalScope
/-! # Layout without stacks

The interpreter of this file hands every element what is around it and gets back what the element
leaves behind. There is nothing to push and nothing to pop: what is around an element is never
changed, an element inside sees other surroundings. Layout gives the same as the interpreter.
-/

namespace PageMap

/-- A value for each key that has one. -/
abbrev StyleScope := StyleKey → Option StyleValue

namespace StyleScope

/-- A cascade with no value below another. -/
def cascade (scope : StyleScope) : Cascade :=
  ⟨StyleKey.all.filterMap fun key => (scope key).map fun value => (key, value)⟩

theorem top?_cascade (scope : StyleScope) (key : StyleKey) :
    scope.cascade.top? key = scope key := by
  have own : (fun other => ((scope other).map fun value => (other, value)).bind fun entry =>
      if entry.1 = key then some entry.2 else none) =
      fun other => if other = key then scope key else none := by
    funext other
    by_cases same : other = key
    · subst same
      cases scope other <;> simp
    · cases scope other <;> simp [same]
  have among (keys : List StyleKey) (member : key ∈ keys) :
      (keys.findSome? fun other => if other = key then scope key else none) = scope key := by
    cases scope key with
    | none => simp
    | some value =>
        induction keys with
        | nil => cases member
        | cons first rest ih =>
            rw [List.findSome?_cons]
            by_cases same : first = key
            · rw [if_pos same]
            · rw [if_neg same]
              exact ih ((List.mem_cons.mp member).resolve_left (Ne.symm same))
  rw [Cascade.top?, cascade, ← List.head?_filterMap, List.filterMap_filterMap, List.head?_filterMap,
    own]
  exact among StyleKey.all (by cases key <;> decide)

end StyleScope

/-- What is around an element. -/
structure Surroundings where
  scope : StyleScope
  constants : Dictionary String
  /-- The innermost flow container. -/
  flow : Option Flow

/-- What elements leave behind. -/
structure Laid where
  items : List Item := []
  constants : List (String × String) := []
  /-- The heights that they take in the container around them. -/
  heights : List Single := []

def Laid.append (first second : Laid) : Laid where
  items := first.items ++ second.items
  constants := first.constants ++ second.constants
  heights := first.heights ++ second.heights

/-- What is around the next element when something was left behind. -/
def Surroundings.after (around : Surroundings) (laid : Laid) : Surroundings :=
  { around with
    constants := around.constants.insertAll laid.constants
    flow := around.flow.map fun flow => laid.heights.foldl Flow.add flow }

namespace Setting

def siteIn (s : Setting) (around : Surroundings) : Site where
  styles := ⟨around.scope.cascade, around.constants, s.config.scales, s.services⟩
  config := s.config
  flow := around.flow
  offset := s.offset

/-- What is around the children of an element. -/
def inside (s : Setting) (node : Node) (around : Surroundings) : Surroundings where
  scope key := (s.scoped? node key).or (around.scope key)
  constants := around.constants
  flow :=
    if node.kind = .container then some (.start (ContainerElement.area node (s.siteIn around)))
    else around.flow

def leaf (s : Setting) (node : Node) (data : Json) (around : Surroundings) : Laid :=
  let site := s.siteIn around
  let outcome := node.kind.outcome node data site
  { items := outcome.items
    constants := outcome.constants
    heights := outcome.extent.toList.map (site.spaced node) }

mutual

/-- Lays out an element and what is inside it. -/
def interpret (s : Setting) (data : Json) : Node → Surroundings → Laid
  | ⟨name, attributes, children, text⟩, around =>
      let node : Node := ⟨name, attributes, children, text⟩
      match node.kind with
      | .text _ | .image | .constants => s.leaf node data around
      | .scope | .unknown => s.interpretAll data children (s.inside node around)
      | .container =>
          let laid := s.interpretAll data children (s.inside node around)
          let height := (s.siteIn around).styles.geometry? node "Height"
          { laid with heights := [height.getD (Spacing.total laid.heights)] }

def interpretAll (s : Setting) (data : Json) : List Node → Surroundings → Laid
  | [], _ => {}
  | node :: rest, around =>
      let first := s.interpret data node around
      first.append (s.interpretAll data rest (around.after first))

end

theorem interpret_eq (s : Setting) (data : Json) (node : Node) (around : Surroundings) :
    s.interpret data node around = match node.kind with
      | .text _ | .image | .constants => s.leaf node data around
      | .scope | .unknown => s.interpretAll data node.children (s.inside node around)
      | .container =>
          let laid := s.interpretAll data node.children (s.inside node around)
          let height := (s.siteIn around).styles.geometry? node "Height"
          { laid with heights := [height.getD (Spacing.total laid.heights)] } := by
  obtain ⟨name, attributes, children, text⟩ := node
  rw [interpret]

end Setting

/-! ### Agreement with the walk -/

namespace LayoutState

def surroundings (st : LayoutState) : Surroundings :=
  ⟨st.cascade.top?, st.constants, st.flows.head?⟩

/-- The same state when elements have left something behind. -/
def extend (st : LayoutState) (laid : Laid) : LayoutState where
  cascade := st.cascade
  constants := st.constants.insertAll laid.constants
  flows := Flow.useUp laid.heights st.flows
  items := st.items ++ laid.items

theorem eq_extend {st after : LayoutState} {laid : Laid} (cascade : after.cascade = st.cascade)
    (constants : after.constants = st.constants.insertAll laid.constants)
    (flows : after.flows = Flow.useUp laid.heights st.flows)
    (items : after.items = st.items ++ laid.items) : after = st.extend laid := by
  cases after
  simp only at cascade constants flows items
  simp only [extend, cascade, constants, flows, items]

theorem extend_append (st : LayoutState) (first second : Laid) :
    st.extend (first.append second) = (st.extend first).extend second := by
  simp only [extend, Laid.append, Dictionary.insertAll_append, Flow.useUp_append,
    List.append_assoc]

theorem surroundings_extend (st : LayoutState) (laid : Laid) :
    (st.extend laid).surroundings = st.surroundings.after laid := by
  simp only [surroundings, extend, Surroundings.after]
  cases st.flows <;> rfl

end LayoutState

namespace Setting

variable {s : Setting} (data : Json)

theorem top?_surroundings (st : LayoutState) (key : StyleKey) :
    st.surroundings.scope.cascade.top? key = (s.site st).styles.cascade.top? key :=
  StyleScope.top?_cascade _ key

theorem outcome_surroundings (kind : ElementKind) (node : Node) (st : LayoutState) :
    kind.outcome node data (s.siteIn st.surroundings) = kind.outcome node data (s.site st) :=
  ElementKind.outcome_of_tops (top?_surroundings st) kind node data

theorem spaced_surroundings (node : Node) (st : LayoutState) :
    (s.siteIn st.surroundings).spaced node = (s.site st).spaced node :=
  funext (Site.spaced_of_tops (top?_surroundings st) node)

theorem opened_constants {node : Node} {st : LayoutState} (descends : node.kind.descends = true) :
    (s.opened data node st).constants = st.constants := by
  simp only [opened, LayoutState.enter, ElementKind.outcome_constants,
    if_neg (Node.ne_constants descends), Dictionary.insertAll_nil]

theorem opened_items {node : Node} {st : LayoutState} (descends : node.kind.descends = true) :
    (s.opened data node st).items = st.items := by
  simp only [opened, LayoutState.enter]
  cases kind : node.kind with
  | text _ | image | constants => simp [kind, ElementKind.descends] at descends
  | container | scope | unknown => exact List.append_nil _

theorem opened_surroundings {node : Node} {st : LayoutState}
    (descends : node.kind.descends = true) :
    (s.opened data node st).surroundings = s.inside node st.surroundings := by
  have scope : (s.opened data node st).cascade.top? = (s.inside node st.surroundings).scope :=
    funext (top?_opened data node st)
  simp only [LayoutState.surroundings, scope, opened_constants data descends, opened_flows, inside]
  by_cases container : node.kind = .container
  · rw [if_pos container, if_pos container]
    rfl
  · rw [if_neg container, if_neg container]

/-- After an element: the cascade is as before, and the rest follows from its outcome and from what
    its children left behind. -/
theorem walk_extend (builtin : s.renderers = .builtin) {node : Node} {st : LayoutState}
    {laid : Laid}
    (constants : (s.filled data node st).constants = st.constants.insertAll laid.constants)
    (flows : (s.walk data node st).2.flows = Flow.useUp laid.heights st.flows)
    (items : (s.filled data node st).items = st.items ++ laid.items) :
    (s.walk data node st).2 = st.extend laid := by
  have walked := walk_builtin data builtin node st
  have constantsAfter := LayoutState.consume_constants
    ((s.filled data node st).leave (node.kind.outcome node data (s.site st)))
    (s.consumedAt node st (node.kind.outcome node data (s.site st)) (s.filled data node st))
  have itemsAfter := LayoutState.consume_items
    ((s.filled data node st).leave (node.kind.outcome node data (s.site st)))
    (s.consumedAt node st (node.kind.outcome node data (s.site st)) (s.filled data node st))
  exact LayoutState.eq_extend (s.walk_kept data node st).cascade
    (by rw [walked]; exact constantsAfter.trans constants) flows
    (by rw [walked]; exact itemsAfter.trans items)

theorem walk_extend_leaf (builtin : s.renderers = .builtin) {node : Node} (st : LayoutState)
    (leaf : node.kind.descends = false) :
    (s.walk data node st).2 = st.extend (s.leaf node data st.surroundings) := by
  have entered : s.filled data node st = s.opened data node st := by
    rw [filled, leaf, if_neg Bool.false_ne_true]
  apply walk_extend data builtin
  · rw [entered, Setting.leaf, outcome_surroundings]
    rfl
  · rw [walk_flows_leaf data builtin leaf, Setting.leaf, outcome_surroundings, spaced_surroundings,
      Option.toList_map]
  · rw [entered, Setting.leaf, outcome_surroundings]
    rfl

theorem walk_extend_around (builtin : s.renderers = .builtin) {node : Node} {st : LayoutState}
    (descends : node.kind.descends = true) {laid : Laid}
    (filled : s.filled data node st = (s.opened data node st).extend laid) {heights : List Single}
    (flows : (s.walk data node st).2.flows = Flow.useUp heights st.flows) :
    (s.walk data node st).2 = st.extend { laid with heights } := by
  apply walk_extend data builtin
  · have entered : (s.opened data node st).constants = st.constants :=
      opened_constants data descends
    rw [filled]
    exact congrArg (·.insertAll laid.constants) entered
  · exact flows
  · have entered : (s.opened data node st).items = st.items := opened_items data descends
    rw [filled]
    exact congrArg (· ++ laid.items) entered

mutual

/-- An element leaves behind what the interpreter says, given what is around the element. -/
theorem walk_eq_extend (builtin : s.renderers = .builtin) (node : Node) (st : LayoutState) :
    (s.walk data node st).2 = st.extend (s.interpret data node st.surroundings) := by
  have filled (descends : node.kind.descends = true) :
      s.filled data node st = (s.opened data node st).extend
        (s.interpretAll data node.children (s.inside node st.surroundings)) := by
    rw [Setting.filled, if_pos descends, ← opened_surroundings data descends]
    exact walkAll_eq_extend builtin node.children _
  rw [interpret_eq]
  -- what is left to see is what each kind does to the containers
  cases kind : node.kind with
  | text source => exact walk_extend_leaf data builtin st (by rw [kind]; rfl)
  | image => exact walk_extend_leaf data builtin st (by rw [kind]; rfl)
  | constants => exact walk_extend_leaf data builtin st (by rw [kind]; rfl)
  | scope =>
      have inner := filled (by rw [kind]; rfl)
      exact walk_extend_around data builtin (by rw [kind]; rfl) inner
        (walk_flows_passing data builtin (.inl kind) (congrArg LayoutState.flows inner))
  | unknown =>
      have inner := filled (by rw [kind]; rfl)
      exact walk_extend_around data builtin (by rw [kind]; rfl) inner
        (walk_flows_passing data builtin (.inr kind) (congrArg LayoutState.flows inner))
  | container =>
      have inner := filled (by rw [kind]; rfl)
      exact walk_extend_around data builtin (by rw [kind]; rfl) inner
        (walk_flows_container data builtin kind (congrArg LayoutState.flows inner))
termination_by sizeOf node
decreasing_by exact node.sizeOf_children_lt

theorem walkAll_eq_extend (builtin : s.renderers = .builtin) (nodes : List Node)
    (st : LayoutState) :
    (s.walkAll data nodes st).2 = st.extend (s.interpretAll data nodes st.surroundings) := by
  cases nodes with
  | nil => simp [walkAll, interpretAll, LayoutState.extend]
  | cons node rest =>
      rw [walkAll_cons data builtin, walkAll_eq_extend builtin rest, walk_eq_extend builtin node,
        LayoutState.surroundings_extend, ← LayoutState.extend_append, interpretAll]
termination_by sizeOf nodes

end

end Setting

/-! ### Layout -/

/-- A text in a style whose alignment cannot be read, in a group that centers. -/
def Node.centered : Node :=
  ⟨"Group", ⟨[("TextAlignment", "center")], by decide⟩,
    [⟨"Style", ⟨[("TextAlignment", "sideways")], by decide⟩, [⟨"Text", .empty, [], "a"⟩], ""⟩], ""⟩

def Builder.default : Builder :=
  .new .default .default

end PageMap
