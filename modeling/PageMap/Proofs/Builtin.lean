import PageMap.Proofs.Dictionary
import PageMap.Proofs.Walk
/-! # Walks with the built-in renderers

The tag names that are registered from the start fall into a few kinds. What an element of a kind
amounts to is written down once, so that walks can be followed kind by kind. Two facts hold of all
such walks: no element is ever refused, and which constants are defined is a matter of the map
alone, not of the data.
-/

namespace PageMap

/-- The kinds of element that the built-in renderers tell apart. -/
inductive ElementKind where
  | text (source : TextSource)
  | image
  | container
  | scope
  | constants
  /-- No renderer is registered. -/
  | unknown
  deriving DecidableEq

namespace ElementKind

def ofName (name : String) : ElementKind :=
  if name = "Text" then .text .own
  else if name = "Property" then .text .binding
  else if name = "Image" then .image
  else if name = "Container" ∨ name = "StackPanel" then .container
  else if name = "Group" ∨ name = "Style" then .scope
  else if name = "Constants" then .constants
  else .unknown

def renderer? : ElementKind → Option Renderer
  | .text source => some (.text source)
  | .image => some .image
  | .container => some .container
  | .scope => some .scope
  | .constants => some .constants
  | .unknown => none

theorem builtin_get? (name : String) : Renderers.builtin.get? name = (ofName name).renderer? := by
  simp only [Renderers.builtin, Dictionary.get?, List.lookup_cons, List.lookup_nil, ofName]
  grind [renderer?]

theorem renderer?_eq_none {kind : ElementKind} : kind.renderer? = none ↔ kind = .unknown := by
  cases kind <;> simp [renderer?]

/-- The style keys on the element are in effect inside it. -/
def cascades : ElementKind → Bool
  | .container | .scope => true
  | _ => false

/-- The children are laid out. -/
def descends : ElementKind → Bool
  | .container | .scope | .unknown => true
  | _ => false

/-- What an element of a kind amounts to. -/
def outcome (node : Node) (data : Json) (site : Site) : ElementKind → Outcome
  | .text source => TextElement.outcome source node data site
  | .image => ImageElement.outcome node data site
  | .container =>
      { pushes := site.styles.declared node
        visitsChildren := true
        flow := some (ContainerElement.area node site) }
  | .scope => { pushes := site.styles.declared node, visitsChildren := true }
  | .constants => { constants := ConstantsElement.entries node }
  | .unknown => .passThrough

section Outcome

variable (node : Node) (data : Json) (site : Site) (kind : ElementKind)

/-- Apart from its items and the height that they take, all that an element amounts to is a matter
    of its kind. -/
theorem outcome_shape : ∃ items extent, kind.outcome node data site =
    { items
      pushes := if kind.cascades then site.styles.declared node else []
      visitsChildren := kind.descends
      flow := if kind = .container then some (ContainerElement.area node site) else none
      extent
      constants := if kind = .constants then ConstantsElement.entries node else [] } := by
  cases kind with
  | text source =>
      simp only [outcome, TextElement.outcome]
      split
      · exact ⟨_, _, rfl⟩
      · split <;> exact ⟨_, _, rfl⟩
  | image =>
      simp only [outcome, ImageElement.outcome]
      split <;> exact ⟨_, _, rfl⟩
  | container | scope | constants | unknown => exact ⟨_, _, rfl⟩

@[simp]
theorem outcome_pushes : (kind.outcome node data site).pushes =
    if kind.cascades then site.styles.declared node else [] := by
  obtain ⟨items, extent, shape⟩ := outcome_shape node data site kind
  rw [shape]

@[simp]
theorem outcome_visitsChildren :
    (kind.outcome node data site).visitsChildren = kind.descends := by
  obtain ⟨items, extent, shape⟩ := outcome_shape node data site kind
  rw [shape]

@[simp]
theorem outcome_flow : (kind.outcome node data site).flow =
    if kind = .container then some (ContainerElement.area node site) else none := by
  obtain ⟨items, extent, shape⟩ := outcome_shape node data site kind
  rw [shape]

@[simp]
theorem outcome_constants : (kind.outcome node data site).constants =
    if kind = .constants then ConstantsElement.entries node else [] := by
  obtain ⟨items, extent, shape⟩ := outcome_shape node data site kind
  rw [shape]

end Outcome

end ElementKind

/-- A text element leaves its text in its frame or in a fitted one, if the text may be placed. -/
theorem TextElement.item_of_mem {source : TextSource} {node : Node} {data : Json} {site : Site}
    {i : Item} (left : i ∈ (outcome source node data site).items) :
    let content := cleanedContent source node data site
    let item := frameItem node site content
    site.services.valid content = true ∧
      (i = item ∨ i = item.fitHeight site.services.compose) := by
  intro content item
  simp only [outcome] at left
  split at left
  · cases left
  · rename_i placed
    refine ⟨by simpa using placed, ?_⟩
    split at left <;> obtain rfl := List.mem_singleton.mp left
    · exact .inl rfl
    · exact .inr rfl
    · exact .inl rfl

theorem ImageElement.item_of_mem {node : Node} {data : Json} {site : Site} {i : Item}
    (left : i ∈ (outcome node data site).items) :
    ∃ key intrinsic frame, i = .image key intrinsic frame := by
  unfold outcome at left
  split at left
  · cases left
  · obtain rfl := List.mem_singleton.mp left
    exact ⟨_, _, _, rfl⟩

def Node.kind (n : Node) : ElementKind := .ofName n.name

theorem Node.kind_eq_constants {node : Node} :
    node.kind = .constants ↔ node.name = "Constants" := by
  grind [kind, ElementKind.ofName]

theorem Node.ne_constants {node : Node} (descends : node.kind.descends = true) :
    node.kind ≠ .constants := by
  intro kind
  rw [kind] at descends
  cases descends

theorem Renderers.builtin_render (node : Node) (data : Json) (site : Site) :
    builtin.render node data site = .ok (node.kind.outcome node data site) := by
  simp only [render, ElementKind.builtin_get?, Node.kind]
  cases ElementKind.ofName node.name <;> rfl

/-! ### The steps of a walk

With the built-in renderers no element is refused, so that a walk amounts to its last state. -/

namespace Setting

/-- The state in which the children of an element are laid out. -/
def opened (s : Setting) (data : Json) (node : Node) (st : LayoutState) : LayoutState :=
  st.enter (node.kind.outcome node data (s.site st))

/-- The state after the children of an element. -/
def filled (s : Setting) (data : Json) (node : Node) (st : LayoutState) : LayoutState :=
  if node.kind.descends then (s.walkAll data node.children (s.opened data node st)).2
  else s.opened data node st

variable {s : Setting} (data : Json)

theorem render_builtin (builtin : s.renderers = .builtin) (node : Node) (st : LayoutState) :
    s.renderers.render node data (s.site st) = .ok (node.kind.outcome node data (s.site st)) := by
  rw [builtin, Renderers.builtin_render]

theorem outcome_of_render (builtin : s.renderers = .builtin) {node : Node} {st : LayoutState}
    {outcome : Outcome} (rendered : s.renderers.render node data (s.site st) = .ok outcome) :
    node.kind.outcome node data (s.site st) = outcome :=
  Except.ok.inj ((render_builtin data builtin node st).symm.trans rendered)

mutual

theorem walk_ok (builtin : s.renderers = .builtin) (node : Node) (st : LayoutState) :
    (s.walk data node st).1 = .ok () := by
  have inside : (s.walkInside data (node.kind.outcome node data (s.site st)) node.children st).1 =
      .ok () := by
    unfold walkInside
    split
    · exact walkAll_ok builtin node.children _
    · rfl
  rw [walk_done (render_builtin data builtin node st) (Prod.ext inside rfl)]
termination_by sizeOf node
decreasing_by exact node.sizeOf_children_lt

theorem walkAll_ok (builtin : s.renderers = .builtin) (nodes : List Node) (st : LayoutState) :
    (s.walkAll data nodes st).1 = .ok () := by
  cases nodes with
  | nil => rfl
  | cons node rest =>
      have first : s.walk data node st = (.ok (), (s.walk data node st).2) :=
        Prod.ext (walk_ok builtin node st) rfl
      rw [walkAll, first]
      exact walkAll_ok builtin rest _
termination_by sizeOf nodes

end

theorem walkAll_cons (builtin : s.renderers = .builtin) (node : Node) (rest : List Node)
    (st : LayoutState) :
    s.walkAll data (node :: rest) st = s.walkAll data rest (s.walk data node st).2 := by
  have first : s.walk data node st = (.ok (), (s.walk data node st).2) :=
    Prod.ext (walk_ok data builtin node st) rfl
  rw [walkAll, first]

theorem walkInside_builtin (builtin : s.renderers = .builtin) (node : Node) (st : LayoutState) :
    s.walkInside data (node.kind.outcome node data (s.site st)) node.children st =
      (.ok (), s.filled data node st) := by
  simp only [walkInside, filled, ElementKind.outcome_visitsChildren, opened]
  split
  · exact Prod.ext (walkAll_ok data builtin _ _) rfl
  · rfl

/-- What an element does: it is entered, its children are laid out, what it gave to them is taken
    back, and its height is used up. -/
theorem walk_builtin (builtin : s.renderers = .builtin) (node : Node) (st : LayoutState) :
    s.walk data node st =
      let outcome := node.kind.outcome node data (s.site st)
      let inner := s.filled data node st
      (.ok (), (inner.leave outcome).consume (s.consumedAt node st outcome inner)) :=
  walk_done (render_builtin data builtin node st) (walkInside_builtin data builtin node st)

end Setting

/-! ### Constants -/

mutual

/-- The constants that a walk of a map defines, in the order of the document. -/
def Node.definitions : Node → List (String × String)
  | ⟨name, attributes, children, text⟩ =>
      let kind := ElementKind.ofName name
      (if kind = .constants then ConstantsElement.entries ⟨name, attributes, children, text⟩
        else []) ++
        if kind.descends then Node.definitionsAll children else []

def Node.definitionsAll : List Node → List (String × String)
  | [] => []
  | node :: rest => node.definitions ++ Node.definitionsAll rest

end

theorem Node.definitions_eq (node : Node) : node.definitions =
    (if node.kind = .constants then ConstantsElement.entries node else []) ++
      if node.kind.descends then definitionsAll node.children else [] := by
  obtain ⟨name, attributes, children, text⟩ := node
  rw [definitions]
  rfl

namespace Setting

variable {s : Setting} (data : Json)

mutual

/-- The constants after a walk do not depend on the data. -/
theorem walk_constants (builtin : s.renderers = .builtin) (node : Node) (st : LayoutState) :
    (s.walk data node st).2.constants = st.constants.insertAll node.definitions := by
  have entered : (s.opened data node st).constants = st.constants.insertAll
      (if node.kind = .constants then ConstantsElement.entries node else []) := by
    simp only [opened, LayoutState.enter, ElementKind.outcome_constants]
  rw [walk_builtin data builtin, LayoutState.consume_constants, Node.definitions_eq,
    Dictionary.insertAll_append, ← entered]
  change (s.filled data node st).constants = _
  unfold filled
  split
  · exact walkAll_constants builtin node.children _
  · rfl
termination_by sizeOf node
decreasing_by exact node.sizeOf_children_lt

theorem walkAll_constants (builtin : s.renderers = .builtin) (nodes : List Node)
    (st : LayoutState) :
    (s.walkAll data nodes st).2.constants = st.constants.insertAll (Node.definitionsAll nodes) := by
  cases nodes with
  | nil => rfl
  | cons node rest =>
      rw [walkAll_cons data builtin, walkAll_constants builtin rest, walk_constants builtin node,
        Node.definitionsAll, Dictionary.insertAll_append]
termination_by sizeOf nodes

end

end Setting

end PageMap
