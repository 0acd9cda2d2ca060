import PageMap.Layout.Builder
import PageMap.Proofs.Cascade
/-! # What a walk leaves as it was

A walk pushes and pops as it goes, and it may end in the middle. Whatever the renderers answer, the
cascade is restored, of the open containers only the innermost has used up more, and the items of
before stand in front of the new ones. The main statement is `Builder.layout_restores_stacks`.
-/

namespace PageMap

theorem Node.sizeOf_children_lt (node : Node) : sizeOf node.children < sizeOf node := by
  cases node
  simp only [Node.mk.sizeOf_spec]
  omega

theorem Spacing.foldl_add_base (amounts : List Single) (s : Spacing) :
    (amounts.foldl Spacing.add s).base = s.base := by
  induction amounts generalizing s with
  | nil => rfl
  | cons amount rest ih =>
      rw [List.foldl_cons, ih, Spacing.add]
      split <;> rfl

theorem Flow.foldl_add (amounts : List Single) (f : Flow) :
    amounts.foldl Flow.add f = { f with spacing := amounts.foldl Spacing.add f.spacing } := by
  induction amounts generalizing f with
  | nil => rfl
  | cons amount rest ih => rw [List.foldl_cons, ih]; rfl

/-- Uses up amounts in the innermost of the open containers, if there is one. -/
def Flow.useUp (amounts : List Single) : List Flow → List Flow
  | [] => []
  | flow :: outer => amounts.foldl Flow.add flow :: outer

namespace Flow

@[simp]
theorem useUp_nil (flows : List Flow) : useUp [] flows = flows := by
  cases flows <;> rfl

theorem useUp_append (first second : List Single) (flows : List Flow) :
    useUp (first ++ second) flows = useUp second (useUp first flows) := by
  cases flows with
  | nil => rfl
  | cons flow outer => simp only [useUp, List.foldl_append]

@[simp]
theorem length_useUp (amounts : List Single) (flows : List Flow) :
    (useUp amounts flows).length = flows.length := by
  cases flows <;> rfl

@[simp]
theorem tail_useUp (amounts : List Single) (flows : List Flow) :
    (useUp amounts flows).tail = flows.tail := by
  cases flows <;> rfl

theorem head?_useUp (amounts : List Single) (flows : List Flow) :
    (useUp amounts flows).head? = flows.head?.map fun flow =>
      { flow with spacing := amounts.foldl Spacing.add flow.spacing } := by
  cases flows with
  | nil => rfl
  | cons flow outer => simp only [useUp, List.head?_cons, Option.map_some, foldl_add]

end Flow

namespace LayoutState

theorem leave_enter_cascade (st inner : LayoutState) (outcome : Outcome)
    (h : inner.cascade = (st.enter outcome).cascade) :
    (inner.leave outcome).cascade = st.cascade := by
  simp only [leave, h, enter, Cascade.popAll_pushAll]

/-- What is used up in a container that an element opened is gone with it; in a container around
    the element it stays. -/
theorem leave_enter_flows (st inner : LayoutState) (outcome : Outcome) (amounts : List Single)
    (h : inner.flows = Flow.useUp amounts (st.enter outcome).flows) :
    (inner.leave outcome).flows =
      if outcome.flow.isSome then st.flows else Flow.useUp amounts st.flows := by
  cases opened : outcome.flow with
  | none => simp [leave, h, enter, opened]
  | some area => simp [leave, h, enter, opened, Flow.useUp]

@[simp]
theorem consume_flows (st : LayoutState) (amount : Option Single) :
    (st.consume amount).flows = Flow.useUp amount.toList st.flows := by
  cases amount with
  | none => simp [consume]
  | some amount => cases h : st.flows <;> simp [consume, Flow.useUp, h]

@[simp]
theorem consume_cascade (st : LayoutState) (amount : Option Single) :
    (st.consume amount).cascade = st.cascade := by
  simp only [consume]
  split <;> rfl

@[simp]
theorem consume_items (st : LayoutState) (amount : Option Single) :
    (st.consume amount).items = st.items := by
  simp only [consume]
  split <;> rfl

@[simp]
theorem consume_constants (st : LayoutState) (amount : Option Single) :
    (st.consume amount).constants = st.constants := by
  simp only [consume]
  split <;> rfl

/-- The state after a walk, or after a part of it, is the one before except for what a walk may
    change. Constants are left out, any renderer may define some. -/
structure Kept (before after : LayoutState) : Prop where
  cascade : after.cascade = before.cascade
  flows : ∃ amounts, after.flows = Flow.useUp amounts before.flows
  items : before.items <+: after.items

namespace Kept

theorem refl (st : LayoutState) : Kept st st :=
  ⟨rfl, ⟨[], (Flow.useUp_nil _).symm⟩, List.prefix_rfl⟩

theorem trans {a b c : LayoutState} (first : Kept a b) (second : Kept b c) : Kept a c := by
  obtain ⟨used, hused⟩ := first.flows
  obtain ⟨more, hmore⟩ := second.flows
  exact {
    cascade := second.cascade.trans first.cascade
    flows := ⟨used ++ more, by rw [hmore, hused, Flow.useUp_append]⟩
    items := first.items.trans second.items }

theorem consume (st : LayoutState) (amount : Option Single) : Kept st (st.consume amount) where
  cascade := consume_cascade st amount
  flows := ⟨amount.toList, consume_flows st amount⟩
  items := by simp

/-- An element takes back what it gave to its children. -/
theorem leave {st inner : LayoutState} {outcome : Outcome} (h : Kept (st.enter outcome) inner) :
    Kept st (inner.leave outcome) := by
  obtain ⟨amounts, hflows⟩ := h.flows
  refine ⟨leave_enter_cascade st inner outcome h.cascade, ?_,
    (List.prefix_append _ _).trans h.items⟩
  rw [leave_enter_flows st inner outcome amounts hflows]
  cases outcome.flow.isSome with
  | true => exact ⟨[], (Flow.useUp_nil _).symm⟩
  | false => exact ⟨amounts, rfl⟩

end Kept

end LayoutState

namespace Setting

/-- Walks the children of an element, if its outcome asks for that. -/
def walkInside (s : Setting) (data : Json) (outcome : Outcome) (children : List Node)
    (st : LayoutState) : Except LayoutError Unit × LayoutState :=
  if outcome.visitsChildren then s.walkAll data children (st.enter outcome)
  else (.ok (), st.enter outcome)

/-- The height that an element takes in the container around it, once its children are laid out. -/
def consumedAt (s : Setting) (node : Node) (st : LayoutState) (outcome : Outcome)
    (inner : LayoutState) : Option Single :=
  inner.consumed? outcome ((s.site st).styles.length .ySpacing node)
    ((s.site st).styles.length .yIncrement node)

variable (s : Setting) (data : Json)

section Steps

variable {s data} {node : Node} {st inner : LayoutState} {outcome : Outcome} {e : LayoutError}

theorem walk_refused (h : s.renderers.render node data (s.site st) = .error e) :
    s.walk data node st = (.error e, st) := by
  obtain ⟨name, attributes, children, text⟩ := node
  simp only [walk, h]

theorem walk_refusedInside (h : s.renderers.render node data (s.site st) = .ok outcome)
    (hinside : s.walkInside data outcome node.children st = (.error e, inner)) :
    s.walk data node st = (.error e, inner.leave outcome) := by
  obtain ⟨name, attributes, children, text⟩ := node
  unfold walkInside at hinside
  simp only [walk, h, hinside]

theorem walk_done (h : s.renderers.render node data (s.site st) = .ok outcome)
    (hinside : s.walkInside data outcome node.children st = (.ok (), inner)) :
    s.walk data node st =
      (.ok (), (inner.leave outcome).consume (s.consumedAt node st outcome inner)) := by
  obtain ⟨name, attributes, children, text⟩ := node
  unfold walkInside at hinside
  simp only [walk, h, hinside, consumedAt]

end Steps

mutual

theorem walk_kept (node : Node) (st : LayoutState) : st.Kept (s.walk data node st).2 := by
  cases h : s.renderers.render node data (s.site st) with
  | error e => rw [walk_refused h]; exact .refl st
  | ok outcome =>
      have inside : (st.enter outcome).Kept (s.walkInside data outcome node.children st).2 := by
        unfold walkInside
        split
        · exact walkAll_kept node.children (st.enter outcome)
        · exact .refl _
      -- if a child is refused, what the element pushed is popped all the same
      rcases hinside : s.walkInside data outcome node.children st with ⟨e | ⟨⟩, inner⟩ <;>
        rw [hinside] at inside
      · rw [walk_refusedInside h hinside]
        exact inside.leave
      · rw [walk_done h hinside]
        exact inside.leave.trans (.consume _ _)
termination_by sizeOf node
decreasing_by exact node.sizeOf_children_lt

theorem walkAll_kept (nodes : List Node) (st : LayoutState) :
    st.Kept (s.walkAll data nodes st).2 := by
  cases nodes with
  | nil => exact .refl st
  | cons node rest =>
      have first := walk_kept node st
      rcases h : s.walk data node st with ⟨e | ⟨⟩, after⟩ <;> rw [h] at first <;>
        simp only [walkAll, h]
      · exact first
      · exact first.trans (walkAll_kept rest after)
termination_by sizeOf nodes

end

end Setting

/-! ### Items of before

A walk does not look at the items that are there. -/

/-- The same state with items in front of those that are there. -/
def LayoutState.behind (front : List Item) (st : LayoutState) : LayoutState :=
  { st with items := front ++ st.items }

namespace LayoutState

variable (front : List Item) (st : LayoutState)

theorem enter_behind (outcome : Outcome) :
    (st.behind front).enter outcome = (st.enter outcome).behind front := by
  simp only [enter, behind, List.append_assoc]

theorem leave_behind (outcome : Outcome) :
    (st.behind front).leave outcome = (st.leave outcome).behind front :=
  rfl

theorem consume_behind (amount : Option Single) :
    (st.behind front).consume amount = (st.consume amount).behind front := by
  cases amount with
  | none => rfl
  | some amount =>
      obtain ⟨cascade, constants, flows, items⟩ := st
      cases flows <;> rfl

end LayoutState

namespace Setting

variable (s : Setting) (data : Json) (front : List Item)

mutual

theorem walk_behind (node : Node) (st : LayoutState) :
    s.walk data node (st.behind front) = (s.walk data node st).map id (.behind front) := by
  have site : s.site (st.behind front) = s.site st := rfl
  cases h : s.renderers.render node data (s.site st) with
  | error e =>
      have behind := h
      rw [← site] at behind
      rw [walk_refused h, walk_refused behind]
      rfl
  | ok outcome =>
      have behind := h
      rw [← site] at behind
      have inside : s.walkInside data outcome node.children (st.behind front) =
          (s.walkInside data outcome node.children st).map id (.behind front) := by
        simp only [walkInside, LayoutState.enter_behind]
        split
        · exact walkAll_behind node.children _
        · rfl
      rcases hinside : s.walkInside data outcome node.children st with ⟨e | ⟨⟩, inner⟩ <;>
        rw [hinside] at inside
      · rw [walk_refusedInside h hinside, walk_refusedInside behind inside,
          LayoutState.leave_behind]
        rfl
      · rw [walk_done h hinside, walk_done behind inside, LayoutState.leave_behind,
          LayoutState.consume_behind]
        rfl
termination_by sizeOf node
decreasing_by exact node.sizeOf_children_lt

theorem walkAll_behind (nodes : List Node) (st : LayoutState) :
    s.walkAll data nodes (st.behind front) = (s.walkAll data nodes st).map id (.behind front) := by
  cases nodes with
  | nil => rfl
  | cons node rest =>
      have first := walk_behind node st
      rcases h : s.walk data node st with ⟨e | ⟨⟩, after⟩ <;> rw [h] at first <;>
        simp only [walkAll, h, first, Prod.map]
      · rfl
      · exact walkAll_behind rest after
termination_by sizeOf nodes

end

end Setting

/-! ### Layout -/

/-- Whether a map could be laid out or an element of it was refused, with any renderers: every style
    key has the stack of values that it had, the open containers are those of before, except that
    amounts may have been used up in the innermost, and the items that were there are followed by
    the new ones. If there was no refusal, it is the new ones that are given. -/
theorem Builder.layout_restores_stacks (b : Builder) (map : Node) (data : Json) :
    let after := (b.layout map data).2
    (∀ key, after.cascade.stack key = b.cascade.stack key) ∧
    after.flows.length = b.flows.length ∧
    after.flows.tail = b.flows.tail ∧
    (∃ amounts : List Single, after.flows.head? = b.flows.head?.map fun flow =>
      { flow with
        spacing := ⟨flow.spacing.base, (amounts.foldl Spacing.add flow.spacing).usage⟩ }) ∧
    ∃ new, after.items = b.items ++ new ∧
      ((b.layout map data).1 = .ok new ∨ ∃ e, (b.layout map data).1 = .error e) := by
  have kept := b.toSetting.walk_kept data map b.toLayoutState
  obtain ⟨amounts, hflows⟩ := kept.flows
  obtain ⟨new, hitems⟩ := kept.items
  have same (flow : Flow) : (⟨flow.spacing.base, (amounts.foldl Spacing.add flow.spacing).usage⟩ :
      Spacing) = amounts.foldl Spacing.add flow.spacing := by
    rw [← Spacing.foldl_add_base amounts flow.spacing]
  refine ⟨fun key => by simp only [layout, kept.cascade], by simp only [layout, hflows,
    Flow.length_useUp], by simp only [layout, hflows, Flow.tail_useUp], ⟨amounts, ?_⟩, new,
    hitems.symm, ?_⟩
  · simp only [layout, hflows, Flow.head?_useUp, same]
  · simp only [layout, ← hitems, List.drop_left]
    cases (b.toSetting.walk data map b.toLayoutState).1 with
    | error e => exact .inr ⟨e, rfl⟩
    | ok _ => exact .inl rfl

end PageMap
