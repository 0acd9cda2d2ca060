import Mathlib.Data.List.Forall2
import PageMap.Proofs.FlowPlacement
/-! # What the offset of a page moves

The same map is laid out twice with the same data, at two offsets. Both walks visit the same
elements, and the states at a visit differ at most in where the open containers begin. From that it
follows that an item is moved up or down as a whole. Only a text that reaches down to the end of the
page has another height as well.
-/

namespace PageMap

/-! ### Items and sites -/

/-- From the same left edge and equally wide. -/
def Rect.SameColumn (r t : Rect) : Prop :=
  r.x = t.x ∧ r.width = t.width

/-- The same item in two places: all that may differ is vertical. -/
structure Item.Moved (i j : Item) : Prop where
  content : i.content = j.content
  needsLayout : i.needsLayout = j.needsLayout
  frame : { i.frame with container := j.frame.container } = j.frame
  container : i.frame.container.SameColumn j.frame.container
  used : i.used.SameColumn j.used

/-- Two items whose containers are equally high, and the rectangles of their contents too. -/
def Item.SameHeights (i j : Item) : Prop :=
  i.frame.container.height = j.frame.container.height ∧ i.used.height = j.used.height

/-- The same container, begun in two places. -/
structure Flow.Moved (f g : Flow) : Prop where
  x : f.x = g.x
  width : f.width = g.width
  height : f.height = g.height
  usage : f.spacing.usage = g.spacing.usage

/-- Two sites that differ in the offset and in where the containers around them begin. -/
structure Site.Moved (s t : Site) : Prop where
  styles : s.styles = t.styles
  config : s.config = t.config
  flow : Option.Rel Flow.Moved s.flow t.flow

/-- A text element outside of all containers without a height that can be read. Its frame reaches
    down to the end of the page. -/
def Site.ReachesDown (site : Site) (node : Node) : Prop :=
  (∃ source, node.kind = .text source) ∧ site.flow = none ∧
    site.styles.geometry? node "Height" = none

/-- The container of a text before it is fitted. -/
def TextElement.container (node : Node) (site : Site) : Rect :=
  let origin := site.place node
  { x := origin.x
    y := origin.y
    width := (site.styles.geometry? node "Width").getD (site.availableWidth origin.x)
    height := (site.styles.geometry? node "Height").getD (site.remainingHeight origin.y) }

theorem TextElement.frameItem_container (node : Node) (site : Site) (content : String) :
    frameItem node site content =
      .text content (site.styles.textStyle node) (site.frame node (container node site)) :=
  rfl

theorem Rect.inset_sameColumn {r t : Rect} (columns : r.SameColumn t) (margin : Single) :
    (r.inset margin).SameColumn (t.inset margin) := by
  simp only [inset, SameColumn, columns.1, columns.2, and_self]

theorem Rect.sameColumn_ofOrigin {p q : Point} (aligned : p.x = q.x) (size : Size) :
    (ofOrigin p size).SameColumn (ofOrigin q size) ∧
      (ofOrigin p size).height = (ofOrigin q size).height :=
  ⟨⟨aligned, rfl⟩, rfl⟩

theorem Frame.align_sameColumn (f : Frame) {area area' : Rect} (columns : area.SameColumn area')
    (size : Size) : (f.align area size).SameColumn (f.align area' size) := by
  simp only [align, Rect.SameColumn, columns.1, columns.2, and_self]

theorem Frame.height_align (f : Frame) {area area' : Rect} (heights : area.height = area'.height)
    (size : Size) : (f.align area size).height = (f.align area' size).height := by
  simp only [align, heights]

namespace Item

section Frames

variable {f : Frame} {container : Rect} (columns : f.container.SameColumn container)

include columns

theorem moved_ofContent (content : ItemContent) :
    (ofContent f content).Moved (ofContent { f with container } content) :=
  ⟨rfl, rfl, rfl, columns, columns⟩

/-- How a text is broken into lines depends on the width of its container only. -/
theorem composeIn_sameColumn (compose : Composer) (content : String) (style : TextStyle) :
    composeIn compose f content style = composeIn compose { f with container } content style := by
  simp only [composeIn, Frame.contentRect, (Rect.inset_sameColumn columns f.padding).2]

theorem moved_layout (heights : f.container.height = container.height) (compose : Composer)
    (content : String) (style : TextStyle) :
    let i := (text content style f).layout compose
    let j := (text content style { f with container }).layout compose
    i.Moved j ∧ i.SameHeights j := by
  have composed := composeIn_sameColumn columns compose content style
  have area := Rect.inset_sameColumn columns f.padding
  have areaHeight : (f.container.inset f.padding).height = (container.inset f.padding).height := by
    simp only [Rect.inset, heights]
  refine ⟨⟨?_, rfl, rfl, columns, ?_⟩, heights, ?_⟩ <;>
    simp only [layout, text, ofContent, ← composed]
  · exact f.align_sameColumn area _
  · exact f.height_align areaHeight _

theorem moved_fitHeight (compose : Composer) (content : String) (style : TextStyle) :
    let i := (text content style f).fitHeight compose
    let j := (text content style { f with container }).fitHeight compose
    i.Moved j ∧ i.SameHeights j := by
  have composed := composeIn_sameColumn columns compose content style
  simp only [fitHeight, text, ofContent, ← composed]
  let height := (composeIn compose f content style).size.height + 2.0 * f.padding
  have fitted : Rect.SameColumn { f.container with height } { container with height } := columns
  exact moved_layout (f := { f with container := { f.container with height } }) fitted rfl compose
    content style

end Frames

end Item

namespace Site.Moved

variable {s t : Site} (moved : s.Moved t)

include moved

theorem place_x (node : Node) : (s.place node).x = (t.place node).x := by
  obtain ⟨styles, config, flow, offset⟩ := s
  obtain ⟨styles, config, flow', offset'⟩ := t
  obtain ⟨rfl, rfl, flows⟩ := moved
  cases flows with
  | none => rfl
  | some begun => simp only [place, begun.x]

theorem availableWidth (x : Single) : s.availableWidth x = t.availableWidth x := by
  obtain ⟨styles, config, flow, offset⟩ := s
  obtain ⟨styles, config, flow', offset'⟩ := t
  obtain ⟨rfl, rfl, flows⟩ := moved
  cases flows with
  | none => rfl
  | some begun => simp only [Site.availableWidth, begun.x, begun.width]

theorem frame_eq (node : Node) (container container' : Rect) :
    t.frame node container' = { s.frame node container with container := container' } := by
  simp only [frame, border?, moved.styles, moved.config]

theorem spaced_eq (node : Node) (height : Single) :
    s.spaced node height = t.spaced node height := by
  simp only [spaced, moved.styles]

theorem cleanedContent_eq (source : TextSource) (node : Node) (data : Json) :
    TextElement.cleanedContent source node data s =
      TextElement.cleanedContent source node data t := by
  obtain ⟨styles, config, flow, offset⟩ := s
  obtain ⟨styles, config, flow', offset'⟩ := t
  obtain ⟨rfl, rfl, -⟩ := moved
  rfl

theorem image?_eq (node : Node) (data : Json) :
    ImageElement.image? node data s = ImageElement.image? node data t := by
  obtain ⟨styles, config, flow, offset⟩ := s
  obtain ⟨styles, config, flow', offset'⟩ := t
  obtain ⟨rfl, rfl, -⟩ := moved
  rfl

theorem container_sameColumn (node : Node) :
    (TextElement.container node s).SameColumn (TextElement.container node t) := by
  refine ⟨moved.place_x node, ?_⟩
  simp only [TextElement.container, moved.styles, moved.place_x, moved.availableWidth]

theorem height_container {node : Node} {height : Single}
    (given : s.styles.geometry? node "Height" = some height) :
    (TextElement.container node s).height = (TextElement.container node t).height := by
  have same : t.styles.geometry? node "Height" = some height := moved.styles ▸ given
  simp only [TextElement.container, given, same, Option.getD_some]

theorem frameItem_eq (node : Node) (content : String) :
    TextElement.frameItem node t content = .text content (s.styles.textStyle node)
      { s.frame node (TextElement.container node s) with
        container := TextElement.container node t } := by
  rw [TextElement.frameItem_container, moved.styles, moved.frame_eq]

theorem services_eq : s.services = t.services := by
  rw [services, services, moved.styles]

theorem moved_fitted (node : Node) (content : String) :
    let i := (TextElement.frameItem node s content).fitHeight s.services.compose
    let j := (TextElement.frameItem node t content).fitHeight t.services.compose
    i.Moved j ∧ i.SameHeights j := by
  rw [moved.frameItem_eq, ← moved.services_eq]
  exact Item.moved_fitHeight (f := s.frame node (TextElement.container node s))
    (moved.container_sameColumn node) s.services.compose content (s.styles.textStyle node)

/-- What a text amounts to at two sites: the same text, or nothing at both. -/
theorem text_items (source : TextSource) {node : Node} (data : Json)
    (kind : node.kind = .text source) :
    List.Forall₂ (fun i j => i.Moved j ∧ (¬s.ReachesDown node → i.SameHeights j))
      (TextElement.outcome source node data s).items
      (TextElement.outcome source node data t).items := by
  have columns := moved.container_sameColumn node
  simp only [TextElement.outcome, ← moved.cleanedContent_eq, ← moved.services_eq, ← moved.styles]
  generalize TextElement.cleanedContent source node data s = content
  have placed : (TextElement.frameItem node s content).Moved
      (TextElement.frameItem node t content) := by
    rw [moved.frameItem_eq]
    exact Item.moved_ofContent (f := s.frame node (TextElement.container node s)) columns _
  cases s.services.valid content with
  | false => exact .nil
  | true =>
      cases given : s.styles.geometry? node "Height" with
      | some height =>
          have heights := moved.height_container given
          exact .cons ⟨placed, fun _ => ⟨heights, heights⟩⟩ .nil
      | none =>
          have flows := moved.flow
          generalize inFlow : s.flow = flow at flows ⊢
          generalize t.flow = flow' at flows ⊢
          cases flows with
          | none =>
              have down : s.ReachesDown node := ⟨⟨source, kind⟩, inFlow, given⟩
              exact .cons ⟨placed, fun settled => absurd down settled⟩ .nil
          | some begun =>
              have fitted := moved.moved_fitted node content
              rw [← moved.services_eq] at fitted
              exact .cons ⟨fitted.1, fun _ => fitted.2⟩ .nil

theorem image_items (node : Node) (data : Json) :
    List.Forall₂ (fun i j => i.Moved j ∧ i.SameHeights j) (ImageElement.outcome node data s).items
      (ImageElement.outcome node data t).items := by
  simp only [ImageElement.outcome, ← moved.image?_eq, ← moved.styles]
  cases ImageElement.image? node data s with
  | none => exact .nil
  | some image =>
      obtain ⟨key, intrinsic⟩ := image
      dsimp only
      generalize ImageElement.containerSize intrinsic (s.styles.geometry? node "Width")
        (s.styles.geometry? node "Height") = size
      obtain ⟨columns, heights⟩ := Rect.sameColumn_ofOrigin (moved.place_x node) size
      simp only [moved.frame_eq node (.ofOrigin (s.place node) size)]
      exact .cons ⟨Item.moved_ofContent columns _, heights, heights⟩ .nil

theorem outcome_items (node : Node) (data : Json) :
    List.Forall₂ (fun i j => i.Moved j ∧ (¬s.ReachesDown node → i.SameHeights j))
      (node.kind.outcome node data s).items (node.kind.outcome node data t).items := by
  cases kind : node.kind with
  | text source => exact moved.text_items source data kind
  | image => exact (moved.image_items node data).imp fun _ _ both => ⟨both.1, fun _ => both.2⟩
  | container | scope | constants | unknown => exact .nil

/-- What an element contributes to the container around it does not depend on where that begins. -/
theorem contribution_eq (node : Node) (data : Json) (inside : List Single) :
    s.contribution data node inside = t.contribution data node inside := by
  have spaced : s.spaced node = t.spaced node := funext (moved.spaced_eq node)
  simp only [contribution, spaced, ← moved.styles]
  cases node.kind with
  | text source =>
      have fitted (content : String) := (moved.moved_fitted node content).2.1
      simp only [TextElement.takenHeight?, ← moved.cleanedContent_eq, ← moved.services_eq,
        ← moved.styles] at fitted ⊢
      simp only [fitted]
  | image => simp only [ImageElement.takenHeight?, ← moved.image?_eq, ← moved.styles]
  | container | scope | constants | unknown => rfl

end Site.Moved

/-! ### Walks -/

/-- Two states that differ in the items and in where the open containers begin. -/
structure LayoutState.Moved (st st' : LayoutState) : Prop where
  cascade : st.cascade = st'.cascade
  constants : st.constants = st'.constants
  flows : List.Forall₂ Flow.Moved st.flows st'.flows

theorem LayoutState.Moved.refl (st : LayoutState) : st.Moved st :=
  ⟨rfl, rfl, List.forall₂_same.mpr fun _ _ => ⟨rfl, rfl, rfl, rfl⟩⟩

theorem Flow.moved_useUp (amounts : List Single) {flows flows' : List Flow}
    (moved : List.Forall₂ Flow.Moved flows flows') :
    List.Forall₂ Flow.Moved (useUp amounts flows) (useUp amounts flows') := by
  cases moved with
  | nil => exact .nil
  | cons begun outer =>
      refine .cons ?_ outer
      rw [foldl_add, foldl_add]
      exact ⟨begun.x, begun.width, begun.height, Spacing.usage_foldl_add amounts begun.usage⟩

namespace Setting

variable {s : Setting} (offset : Single) (data : Json)

theorem site_moved {st st' : LayoutState} (moved : st.Moved st') :
    (s.site st).Moved ({ s with offset }.site st') where
  styles := by simp only [site, LayoutState.resolver, moved.cascade, moved.constants]
  config := rfl
  flow := by
    have flows := moved.flows
    simp only [site]
    generalize st.flows = here, st'.flows = there at flows ⊢
    cases flows with
    | nil => exact .none
    | cons begun outer => exact .some begun

theorem opened_moved (node : Node) {st st' : LayoutState} (moved : st.Moved st') :
    (s.opened data node st).Moved ({ s with offset }.opened data node st') := by
  have sites := site_moved (s := s) offset moved
  refine ⟨?_, ?_, ?_⟩
  · simp only [opened, LayoutState.enter, ElementKind.outcome_pushes, sites.styles, moved.cascade]
  · simp only [opened, LayoutState.enter, ElementKind.outcome_constants, moved.constants]
  · rw [opened_flows, opened_flows]
    split
    · refine .cons ?_ moved.flows
      constructor <;> simp only [Flow.start, ContainerElement.area, Spacing.start, sites.styles,
        sites.place_x, sites.availableWidth]
    · exact moved.flows

theorem walk_moved (builtin : s.renderers = .builtin) (node : Node) {st st' : LayoutState}
    (moved : st.Moved st')
    (same : s.contributions data node st = { s with offset }.contributions data node st') :
    (s.walk data node st).2.Moved ({ s with offset }.walk data node st').2 := by
  have builtin' : { s with offset }.renderers = .builtin := builtin
  refine ⟨?_, ?_, ?_⟩
  · rw [(s.walk_kept data node st).cascade, (Setting.walk_kept _ data node st').cascade,
      moved.cascade]
  · rw [walk_constants data builtin, walk_constants data builtin', moved.constants]
  · rw [walk_flows data builtin, walk_flows data builtin', same]
    exact Flow.moved_useUp _ moved.flows

mutual

theorem contributions_moved (builtin : s.renderers = .builtin) (node : Node) {st st' : LayoutState}
    (moved : st.Moved st') :
    s.contributions data node st = { s with offset }.contributions data node st' := by
  rw [contributions_eq, contributions_eq,
    contributionsAll_moved builtin node.children (opened_moved offset data node moved)]
  exact (site_moved offset moved).contribution_eq node data _
termination_by sizeOf node
decreasing_by exact node.sizeOf_children_lt

theorem contributionsAll_moved (builtin : s.renderers = .builtin) (nodes : List Node)
    {st st' : LayoutState} (moved : st.Moved st') :
    s.contributionsAll data nodes st = { s with offset }.contributionsAll data nodes st' := by
  cases nodes with
  | nil => rfl
  | cons node rest =>
      have same := contributions_moved builtin node moved
      rw [contributionsAll, contributionsAll, same,
        contributionsAll_moved builtin rest (walk_moved offset data builtin node moved same)]
termination_by sizeOf nodes

end

end Setting

/-- Two visits of the same element in states that differ only in where the open containers begin. -/
structure Visit.Moved (v w : Visit) : Prop where
  node : v.node = w.node
  state : v.state.Moved w.state

namespace Setting

variable {s : Setting} (offset : Single) (data : Json)

mutual

theorem visits_moved (builtin : s.renderers = .builtin) (around around' : List Enclosing)
    (node : Node) {st st' : LayoutState} (moved : st.Moved st') :
    List.Forall₂ Visit.Moved (s.visits data around node st)
      ({ s with offset }.visits data around' node st') := by
  have builtin' : { s with offset }.renderers = .builtin := builtin
  rw [visits_builtin data builtin, visits_builtin data builtin']
  refine .cons ⟨rfl, moved⟩ ?_
  split
  · exact visitsAll_moved builtin _ _ around around' node.children
      (opened_moved offset data node moved)
  · exact .nil
termination_by sizeOf node
decreasing_by exact node.sizeOf_children_lt

theorem visitsAll_moved (builtin : s.renderers = .builtin) (here here' : Enclosing)
    (around around' : List Enclosing) (nodes : List Node) {st st' : LayoutState}
    (moved : st.Moved st') :
    List.Forall₂ Visit.Moved (s.visitsAll data here around nodes st)
      ({ s with offset }.visitsAll data here' around' nodes st') := by
  have builtin' : { s with offset }.renderers = .builtin := builtin
  cases nodes with
  | nil => exact .nil
  | cons node rest =>
      have after := walk_moved offset data builtin node moved
        (contributions_moved offset data builtin node moved)
      rw [visitsAll_builtin data builtin, visitsAll_builtin data builtin']
      exact List.rel_append (visits_moved builtin _ _ node moved)
        (visitsAll_moved builtin _ _ around around' rest after)
termination_by sizeOf nodes

end

end Setting

/-! ### Layout -/

/-- What the offset does to a layout with the built-in renderers: the new items come in the same
    number and from the same elements, and each of them is the same item in another place. It is
    equally high as well, except for a text outside of all containers that has no height of its own.
    The constants and the cascade do not depend on the offset at all. -/
theorem Builder.layout_moved (b : Builder) (builtin : b.renderers = .builtin) (offset : Single)
    (map : Node) (data : Json) :
    let other : Builder := { b with offset }
    let placed := b.placements map data
    let placed' := other.placements map data
    (b.layout map data).1 = .ok (placed.map (·.2)) ∧
    (other.layout map data).1 = .ok (placed'.map (·.2)) ∧
    List.Forall₂ (fun (v, i) (w, j) => v.node = w.node ∧ i.Moved j ∧
      (¬(b.toSetting.site v.state).ReachesDown v.node → i.SameHeights j)) placed placed' ∧
    (b.layout map data).2.constants = (other.layout map data).2.constants ∧
    (b.layout map data).2.cascade = (other.layout map data).2.cascade := by
  intro other placed placed'
  have start := LayoutState.Moved.refl b.toLayoutState
  have visits := Setting.visits_moved offset data builtin [] [] map start
  have after := Setting.walk_moved offset data builtin map start
    (Setting.contributions_moved offset data builtin map start)
  refine ⟨b.layout_placements builtin map data, other.layout_placements builtin map data, ?_,
    after.constants, after.cascade⟩
  refine List.rel_flatMap visits ?_
  intro v w moved
  have items : List.Forall₂ (fun i j => i.Moved j ∧
      (¬(b.toSetting.site v.state).ReachesDown v.node → i.SameHeights j))
      (b.toSetting.itemsAt data v) (other.toSetting.itemsAt data w) := by
    have own := Setting.itemsAt_builtin (s := b.toSetting) data builtin v
    have own' := Setting.itemsAt_builtin (s := other.toSetting) data builtin w
    rw [own, own', ← moved.node]
    exact (Setting.site_moved offset moved.state).outcome_items v.node data
  exact List.forall₂_map_left_iff.mpr (List.forall₂_map_right_iff.mpr
    (items.imp fun _ _ both => ⟨moved.node, both⟩))

/-- A text on the page and another one in a container below it. -/
def Node.textAndPanel : Node :=
  ⟨"Group", .empty, [⟨"Text", .empty, [], "above"⟩,
    ⟨"StackPanel", ⟨[("Y", "200")], by decide⟩, [⟨"Text", .empty, [], "below"⟩], ""⟩], ""⟩

theorem Builder.layout_moved_below :
    ∃ items items', (twentyHigh.layout .textAndPanel .null).1 = .ok items ∧
      ({ twentyHigh with offset := 100.0 }.layout .textAndPanel .null).1 = .ok items' ∧
      items.length = 2 ∧ List.Forall₂ Item.Moved items items' := by
  obtain ⟨laid, laid', moved, -⟩ := twentyHigh.layout_moved rfl 100.0 .textAndPanel .null
  have count : ((twentyHigh.placements .textAndPanel .null).map (·.2)).length = 2 := by
    decide +kernel
  refine ⟨_, _, laid, laid', count, ?_⟩
  exact List.forall₂_map_left_iff.mpr (List.forall₂_map_right_iff.mpr
    (moved.imp fun _ _ both => both.2.1))

end PageMap
