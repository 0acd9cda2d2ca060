import PageMap.Proofs.Visits
/-! # Placement in flow containers

What a container has used up when a walk comes to an element is a matter of the elements that are
already done and belong to the container directly: each contributes a height of its own, in the
order of the document, and the heights are added up from nothing. The walk finds that sum by passing
a cursor through the open containers; `Setting.contributions` says it without one.
-/

namespace PageMap

namespace Spacing

/-- The height that amounts use up one after the other. -/
def total (amounts : List Single) : Single :=
  (amounts.foldl add (.start 0.0)).usage

theorem usage_foldl_add (amounts : List Single) {s t : Spacing} (same : s.usage = t.usage) :
    (amounts.foldl add s).usage = (amounts.foldl add t).usage := by
  induction amounts generalizing s t with
  | nil => exact same
  | cons amount rest ih =>
      refine ih ?_
      simp only [add]
      split
      · exact congrArg (· + amount) same
      · exact same

theorem foldl_add_start (base : Single) (amounts : List Single) :
    amounts.foldl add (.start base) = ⟨base, total amounts⟩ := by
  have kept := foldl_add_base amounts (.start base)
  have used := usage_foldl_add amounts (s := .start base) (t := .start 0.0) rfl
  generalize amounts.foldl add (.start base) = s at kept used
  cases s
  simp only [start, total] at kept used ⊢
  rw [kept, used]

end Spacing

/-- The height of a text in a flow container, if the text may be placed: the one that the element
    gives, or else the one that its container is fitted to. -/
def TextElement.takenHeight? (source : TextSource) (node : Node) (data : Json) (site : Site) :
    Option Single :=
  let content := cleanedContent source node data site
  if site.services.valid content then
    some ((site.styles.geometry? node "Height").getD
      ((frameItem node site content).fitHeight site.services.compose).frame.container.height)
  else none

def ImageElement.takenHeight? (node : Node) (data : Json) (site : Site) : Option Single :=
  (image? node data site).map fun (_, intrinsic) =>
    (containerSize intrinsic (site.styles.geometry? node "Width")
      (site.styles.geometry? node "Height")).height

namespace Site

/-- A height together with the spacing that is in effect at an element. -/
def spaced (site : Site) (node : Node) (height : Single) : Single :=
  height + site.styles.length .ySpacing node + site.styles.length .yIncrement node

/-- What an element contributes to the container that it belongs to, given what the elements
    directly inside it contribute. -/
def contribution (site : Site) (data : Json) (node : Node) (inside : List Single) : List Single :=
  match node.kind with
  | .text source => (TextElement.takenHeight? source node data site).toList.map (site.spaced node)
  | .image => (ImageElement.takenHeight? node data site).toList.map (site.spaced node)
  | .container => [(site.styles.geometry? node "Height").getD (Spacing.total inside)]
  | .scope | .unknown => inside
  | .constants => []

end Site

theorem TextElement.outcome_extent {source : TextSource} {node : Node} {data : Json} {site : Site}
    {flow : Flow} (inFlow : site.flow = some flow) :
    (outcome source node data site).extent = takenHeight? source node data site := by
  simp only [outcome, takenHeight?, inFlow]
  cases site.services.valid (cleanedContent source node data site) with
  | false => rfl
  | true => cases site.styles.geometry? node "Height" <;> rfl

theorem ImageElement.outcome_extent (node : Node) (data : Json) (site : Site) :
    (outcome node data site).extent = takenHeight? node data site := by
  simp only [outcome, takenHeight?]
  cases image? node data site <;> rfl

namespace Setting

mutual

/-- What a completed element contributes to the container around it. -/
def contributions (s : Setting) (data : Json) : Node → LayoutState → List Single
  | ⟨name, attributes, children, text⟩, st =>
      let node : Node := ⟨name, attributes, children, text⟩
      (s.site st).contribution data node
        (s.contributionsAll data children (s.opened data node st))

def contributionsAll (s : Setting) (data : Json) : List Node → LayoutState → List Single
  | [], _ => []
  | node :: rest, st =>
      s.contributions data node st ++ s.contributionsAll data rest (s.walk data node st).2

end

theorem contributions_eq (s : Setting) (data : Json) (node : Node) (st : LayoutState) :
    s.contributions data node st = (s.site st).contribution data node
      (s.contributionsAll data node.children (s.opened data node st)) := by
  obtain ⟨name, attributes, children, text⟩ := node
  rw [contributions]

variable {s : Setting} (data : Json)

theorem consumedAt_closed {node : Node} {st inner : LayoutState} {outcome : Outcome}
    (closed : outcome.flow = none) :
    s.consumedAt node st outcome inner = outcome.extent.map ((s.site st).spaced node) := by
  simp only [consumedAt, LayoutState.consumed?, closed, Option.isSome_none, Bool.false_eq_true,
    if_false, Option.none_or]
  rfl

theorem consumedAt_container {node : Node} {st inner : LayoutState} {outcome : Outcome}
    {area : FlowArea} {flow : Flow} {outer : List Flow} (opens : outcome.flow = some area)
    (flows : inner.flows = flow :: outer) :
    s.consumedAt node st outcome inner = some flow.extent := by
  simp [consumedAt, LayoutState.consumed?, opens, flows]

theorem opened_flows (node : Node) (st : LayoutState) : (s.opened data node st).flows =
    if node.kind = .container then .start (ContainerElement.area node (s.site st)) :: st.flows
    else st.flows := by
  simp only [opened, LayoutState.enter, ElementKind.outcome_flow]
  by_cases container : node.kind = .container
  · rw [if_pos container, if_pos container]
  · rw [if_neg container, if_neg container]

theorem walk_flows_leaf (builtin : s.renderers = .builtin) {node : Node} {st : LayoutState}
    (leaf : node.kind.descends = false) :
    (s.walk data node st).2.flows = Flow.useUp
      ((node.kind.outcome node data (s.site st)).extent.map ((s.site st).spaced node)).toList
      st.flows := by
  have closed : (node.kind.outcome node data (s.site st)).flow = none := by
    rw [ElementKind.outcome_flow, if_neg]
    intro container
    simp [container, ElementKind.descends] at leaf
  have nothing : (s.filled data node st).flows = Flow.useUp [] (s.opened data node st).flows := by
    simp only [filled, leaf, Bool.false_eq_true, if_false, Flow.useUp_nil]
  rw [walk_builtin data builtin, LayoutState.consume_flows,
    LayoutState.leave_enter_flows st _ _ [] nothing, consumedAt_closed closed, closed]
  simp only [Option.isSome_none, Bool.false_eq_true, if_false, Flow.useUp_nil]

theorem walk_flows_passing (builtin : s.renderers = .builtin) {node : Node} {st : LayoutState}
    (passes : node.kind = .scope ∨ node.kind = .unknown) {inside : List Single}
    (filled : (s.filled data node st).flows = Flow.useUp inside (s.opened data node st).flows) :
    (s.walk data node st).2.flows = Flow.useUp inside st.flows := by
  rw [walk_builtin data builtin, LayoutState.consume_flows,
    LayoutState.leave_enter_flows st _ _ inside filled]
  rcases passes with kind | kind <;> rw [kind, consumedAt_closed rfl] <;>
    simp [ElementKind.outcome, Outcome.passThrough]

theorem walk_flows_container (builtin : s.renderers = .builtin) {node : Node} {st : LayoutState}
    (kind : node.kind = .container) {inside : List Single}
    (filled : (s.filled data node st).flows = Flow.useUp inside (s.opened data node st).flows) :
    (s.walk data node st).2.flows = Flow.useUp
      [((s.site st).styles.geometry? node "Height").getD (Spacing.total inside)] st.flows := by
  have opens : (node.kind.outcome node data (s.site st)).flow =
      some (ContainerElement.area node (s.site st)) := by
    rw [ElementKind.outcome_flow, if_pos kind]
  have inner := filled
  rw [opened_flows, if_pos kind, Flow.useUp, Flow.foldl_add] at inner
  rw [walk_builtin data builtin, LayoutState.consume_flows,
    LayoutState.leave_enter_flows st _ _ inside filled, consumedAt_container opens inner, opens]
  simp only [Option.isSome_some, if_true, Option.toList_some, Flow.extent, Flow.start,
    Spacing.foldl_add_start, ContainerElement.area]

mutual

/-- A completed element has used up its contribution in the innermost container, and nothing
    else. -/
theorem walk_flows (builtin : s.renderers = .builtin) (node : Node) (st : LayoutState) :
    (s.walk data node st).2.flows = Flow.useUp (s.contributions data node st) st.flows := by
  cases flows : st.flows with
  | nil =>
      -- heights are also there where no container is open, but they are not used up
      obtain ⟨amounts, kept⟩ := (s.walk_kept data node st).flows
      rw [kept, flows]
      rfl
  | cons flow outer =>
      have inFlow : (s.site st).flow = some flow := by simp only [site, flows, List.head?_cons]
      have filled (descends : node.kind.descends = true) : (s.filled data node st).flows =
          Flow.useUp (s.contributionsAll data node.children (s.opened data node st))
            (s.opened data node st).flows := by
        rw [Setting.filled, if_pos descends]
        exact walkAll_flows builtin node.children _
      rw [contributions_eq, Site.contribution, ← flows]
      cases kind : node.kind with
      | text source =>
          rw [walk_flows_leaf data builtin (by rw [kind]; rfl), kind, ElementKind.outcome,
            TextElement.outcome_extent inFlow, Option.toList_map]
      | image =>
          rw [walk_flows_leaf data builtin (by rw [kind]; rfl), kind, ElementKind.outcome,
            ImageElement.outcome_extent, Option.toList_map]
      | constants =>
          rw [walk_flows_leaf data builtin (by rw [kind]; rfl), kind]
          rfl
      | container =>
          exact walk_flows_container data builtin kind (filled (by rw [kind]; rfl))
      | scope => exact walk_flows_passing data builtin (.inl kind) (filled (by rw [kind]; rfl))
      | unknown => exact walk_flows_passing data builtin (.inr kind) (filled (by rw [kind]; rfl))
termination_by sizeOf node
decreasing_by exact node.sizeOf_children_lt

theorem walkAll_flows (builtin : s.renderers = .builtin) (nodes : List Node) (st : LayoutState) :
    (s.walkAll data nodes st).2.flows = Flow.useUp (s.contributionsAll data nodes st) st.flows := by
  cases nodes with
  | nil => exact (Flow.useUp_nil _).symm
  | cons node rest =>
      rw [walkAll_cons data builtin, walkAll_flows builtin rest, walk_flows builtin node,
        contributionsAll, Flow.useUp_append]
termination_by sizeOf nodes

end

/-! ### At a visit -/

/-- What is contributed by the elements that are done and belong to the innermost open container
    directly: they stand in it, or in elements that do not open a container themselves. -/
def ownContributions (s : Setting) (data : Json) : List Enclosing → List Single
  | [] => []
  | e :: outer =>
      (if e.node.kind = .container then [] else s.ownContributions data outer) ++
        e.done.flatMap fun child => s.contributions data child.1 child.2

/-- The containers that are open inside elements around a visit. -/
def openFlows (s : Setting) (data : Json) : List Enclosing → List Flow
  | [] => []
  | e :: outer =>
      Flow.useUp (e.done.flatMap fun child => s.contributions data child.1 child.2)
        (if e.node.kind = .container then
          .start (ContainerElement.area e.node (s.site e.state)) :: s.openFlows data outer
        else s.openFlows data outer)

theorem maintained_openFlows (builtin : s.renderers = .builtin) :
    s.Maintained data fun around st => st.flows = s.openFlows data around where
  enter {around node st outcome} rendered _ before := by
    obtain rfl := outcome_of_render data builtin rendered
    simp only [openFlows, List.flatMap_nil, Flow.useUp_nil, ← before]
    exact opened_flows data node st
  next {here around node st after} walked before := by
    have used := walk_flows data builtin node st
    rw [walked, before, openFlows] at used
    simp only [openFlows, Enclosing.finish, List.flatMap_append, List.flatMap_cons,
      List.flatMap_nil, List.append_nil, Flow.useUp_append]
    exact used

theorem head?_openFlows (around : List Enclosing) : (s.openFlows data around).head? =
    (around.find? fun e => e.node.kind = .container).map fun e =>
      let area := ContainerElement.area e.node (s.site e.state)
      { Flow.start area with
        spacing := ⟨area.top, Spacing.total (s.ownContributions data around)⟩ } := by
  have foldl_own (e : Enclosing) (outer : List Enclosing) (top : Single) (own : List Single) :
      own.foldl Spacing.add ⟨top, Spacing.total (s.ownContributions data outer)⟩ =
        ⟨top, Spacing.total (s.ownContributions data outer ++ own)⟩ := by
    rw [← Spacing.foldl_add_start, ← List.foldl_append, Spacing.foldl_add_start]
  induction around with
  | nil => rfl
  | cons e outer ih =>
      simp only [openFlows, ownContributions, Flow.head?_useUp]
      by_cases container : e.node.kind = .container
      · simp only [container, if_true, List.head?_cons, Option.map_some, List.find?_cons,
          decide_true, List.nil_append, Flow.start, Spacing.foldl_add_start]
      · simp only [container, if_false, List.find?_cons, decide_false, ih, Option.map_map]
        congr 1
        funext c
        simp only [Function.comp, foldl_own e outer]

end Setting

/-- Whenever a walk with the built-in renderers comes to an element inside of a flow container, the
    innermost container began at its own place and has used up what the elements contribute that are
    done and belong to it. An element that is placed there is placed below them. -/
theorem Builder.flow_usage_eq_total (b : Builder) (builtin : b.renderers = .builtin)
    (closed : b.flows = []) (map : Node) (data : Json) (v : Visit) (visited : v ∈ b.visits map data)
    (flow : Flow) (inFlow : v.state.flows.head? = some flow) :
    let site := b.toSetting.site v.state
    let total := Spacing.total (b.toSetting.ownContributions data v.around)
    flow.spacing.usage = total ∧
    (site.place v.node).y =
      flow.spacing.base + total + (site.styles.geometry? v.node "Y").getD 0.0 ∧
    ∃ container, (v.around.find? fun e => e.node.kind = .container) = some container ∧
      flow.spacing.base = ((b.toSetting.site container.state).place container.node).y := by
  have open? := Setting.visits_invariant (b.toSetting.maintained_openFlows data builtin) [] map
    b.toLayoutState closed v visited
  have placed : ((b.toSetting.site v.state).place v.node).y = flow.spacing.offset +
      ((b.toSetting.site v.state).styles.geometry? v.node "Y").getD 0.0 := by
    simp only [Site.place, Setting.site, inFlow]
  rw [open?, Setting.head?_openFlows, Option.map_eq_some_iff] at inFlow
  obtain ⟨container, innermost, rfl⟩ := inFlow
  exact ⟨rfl, placed, container, innermost, rfl⟩

/-- Two texts above a third one; the second stands in a group. -/
def Node.threeTexts : Node :=
  ⟨"StackPanel", ⟨[("YSpacing", "5")], by decide⟩,
    [⟨"Text", .empty, [], "first"⟩, ⟨"Group", .empty, [⟨"Text", .empty, [], "second"⟩], ""⟩,
      ⟨"Text", .empty, [], "third"⟩], ""⟩

/-- A builder with texts that are all twenty points high, for maps in points. -/
def Builder.twentyHigh : Builder :=
  .new { LayoutConfig.default with scales := .points }
    { Services.default with compose := .fixed ⟨10.0, 20.0⟩ }

theorem Builder.flow_usage_eq_total_third :
    ∃ v ∈ twentyHigh.visits .threeTexts .null, v.node.text = "third" ∧
      ∃ flow, v.state.flows.head? = some flow ∧ flow.spacing.usage = 50.0 := by
  have there : (twentyHigh.visits .threeTexts .null)[4]?.isSome := by decide +kernel
  have third : (twentyHigh.visits .threeTexts .null)[4]?.map (·.node.text) = some "third" := by
    decide +kernel
  have opened : ((twentyHigh.visits .threeTexts .null)[4]?.bind (·.state.flows.head?)).isSome := by
    decide +kernel
  have total : ((twentyHigh.visits .threeTexts .null)[4]?.map fun v =>
      Spacing.total (twentyHigh.toSetting.ownContributions .null v.around)) = some 50.0 := by
    decide +kernel
  obtain ⟨v, visit⟩ := Option.isSome_iff_exists.mp there
  simp only [visit, Option.map_some, Option.bind_some, Option.some.injEq] at third opened total
  obtain ⟨flow, inFlow⟩ := Option.isSome_iff_exists.mp opened
  have visited := List.mem_of_getElem? visit
  exact ⟨v, visited, third, flow, inFlow,
    (flow_usage_eq_total twentyHigh rfl rfl .threeTexts .null v visited flow inFlow).1.trans total⟩

end PageMap
