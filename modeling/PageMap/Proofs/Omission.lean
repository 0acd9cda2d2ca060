import PageMap.Proofs.Splicing
import Mathlib.Data.List.Nodup
/-! # Elements that are left out

A text that must not be placed and an image that is not there amount to nothing. The walk goes on as
if such an element did not stand in the map: it can be taken out, alone or together with others, and
all that is left is laid out as before. The main statement is `Builder.layout_omitted`.
-/

namespace PageMap

/-- The element has content of its own. -/
def ElementKind.showsContent : ElementKind → Bool
  | .text _ | .image => true
  | .container | .scope | .constants | .unknown => false

/-- The element amounts to nothing: a text that the services refuse, or an image without a key or
    with a key that no image has. -/
def Setting.Omits (s : Setting) (data : Json) (node : Node) (st : LayoutState) : Prop :=
  let site := s.site st
  match node.kind with
  | .text source => s.services.valid (TextElement.cleanedContent source node data site) = false
  | .image => ∀ key, ImageElement.key? node data site = some key →
      ∃ missing, s.services.image key data = .error missing
  | .container | .scope | .constants | .unknown => False

theorem ImageElement.image?_eq_none {node : Node} {data : Json} {site : Site} :
    image? node data site = none ↔ ∀ key, key? node data site = some key →
      ∃ missing, site.services.image key data = .error missing := by
  rw [image?, Option.bind_eq_none_iff]
  refine forall₂_congr fun key _ => ?_
  cases site.services.image key data with
  | error missing => exact iff_of_true rfl ⟨missing, rfl⟩
  | ok size =>
      refine iff_of_false (Option.some_ne_none _) fun refused => ?_
      obtain ⟨missing, same⟩ := refused
      cases same

namespace Setting

variable {s : Setting} {data : Json} {node : Node} {st : LayoutState}

theorem omits_text {source : TextSource} (kind : node.kind = .text source) :
    s.Omits data node st ↔
      (s.site st).services.valid (TextElement.cleanedContent source node data (s.site st)) =
        false := by
  rw [Omits, kind]
  rfl

theorem omits_image (kind : node.kind = .image) :
    s.Omits data node st ↔ ImageElement.image? node data (s.site st) = none := by
  rw [Omits, kind, ImageElement.image?_eq_none]
  rfl

instance : Decidable (s.Omits data node st) :=
  match kind : node.kind with
  | .text _ => decidable_of_iff _ (omits_text kind).symm
  | .image =>
      decidable_of_iff _ (Option.isNone_iff_eq_none.trans (omits_image kind).symm)
  | .container | .scope | .constants | .unknown => .isFalse (by rw [Omits, kind]; exact id)

end Setting

/-! ### Positions -/

/-- How many elements are done in each of some elements, the innermost first. -/
def Enclosing.progress (around : List Enclosing) : List Nat :=
  around.map (·.done.length)

theorem Enclosing.length_finish (e : Enclosing) (child : Node) (st : LayoutState) :
    (e.finish child st).done.length = e.done.length + 1 := by
  rw [finish, List.length_append, List.length_singleton]

/-- Where an element stands: its index among the elements beside it, then the index of the element
    around it, and so on. The root stands at `[]`. -/
def Visit.position (v : Visit) : List Nat :=
  Enclosing.progress v.around

/-- The element of a visit apart from what is inside it, and the state before it. -/
def Visit.alone (v : Visit) : Node × LayoutState :=
  ({ v.node with children := [] }, v.state)

mutual

/-- The tree without the elements at some positions, its root excepted. What a walk does not come to
    is left alone. -/
def Node.without (dropped : List (List Nat)) (position : List Nat) : Node → Node
  | ⟨name, attributes, children, text⟩ =>
      ⟨name, attributes,
        if (ElementKind.ofName name).descends then Node.withoutAll dropped position 0 children
        else children,
        text⟩

/-- The elements that are left of those that stand side by side from an index on. -/
def Node.withoutAll (dropped : List (List Nat)) (parent : List Nat) (index : Nat) :
    List Node → List Node
  | [] => []
  | node :: rest =>
      let others := Node.withoutAll dropped parent (index + 1) rest
      if index :: parent ∈ dropped then others
      else node.without dropped (index :: parent) :: others

end

namespace Node

variable {dropped : List (List Nat)} {position : List Nat} {node : Node}

theorem kind_without : (node.without dropped position).kind = node.kind := by
  obtain ⟨name, attributes, children, text⟩ := node
  rw [without, kind, kind]

theorem without_leaf (leaf : node.kind.descends = false) :
    node.without dropped position = node := by
  obtain ⟨name, attributes, children, text⟩ := node
  have known : (ElementKind.ofName name).descends = false := leaf
  rw [without, known, if_neg Bool.false_ne_true]

theorem without_descends (descends : node.kind.descends = true) :
    node.without dropped position =
      { node with children := withoutAll dropped position 0 node.children } := by
  obtain ⟨name, attributes, children, text⟩ := node
  have known : (ElementKind.ofName name).descends = true := descends
  rw [without, known, if_pos rfl]

end Node

namespace Setting

variable (s : Setting) (data : Json)

mutual

theorem position_visits (around : List Enclosing) (node : Node) (st : LayoutState) :
    ∀ v ∈ s.visits data around node st, Enclosing.progress around <:+ v.position := by
  intro v visited
  cases h : s.renderers.render node data (s.site st) with
  | error e =>
      rw [visits_refused h] at visited
      obtain rfl := List.mem_singleton.mp visited
      exact List.suffix_rfl
  | ok outcome =>
      rw [visits_entered h] at visited
      rcases List.mem_cons.mp visited with rfl | inside
      · exact List.suffix_rfl
      · split at inside
        · obtain ⟨index, -, below⟩ :=
            position_visitsAll ⟨node, st, []⟩ around node.children _ v inside
          exact (List.suffix_cons index _).trans below
        · cases inside
termination_by sizeOf node
decreasing_by exact node.sizeOf_children_lt

theorem position_visitsAll (here : Enclosing) (around : List Enclosing) (nodes : List Node)
    (st : LayoutState) : ∀ v ∈ s.visitsAll data here around nodes st,
      ∃ index, here.done.length ≤ index ∧ index :: Enclosing.progress around <:+ v.position := by
  intro v visited
  cases nodes with
  | nil => cases visited
  | cons node rest =>
      simp only [visitsAll, List.mem_append] at visited
      rcases visited with first | later
      · exact ⟨here.done.length, Nat.le_refl _, position_visits (here :: around) node st v first⟩
      · rcases h : s.walk data node st with ⟨e | ⟨⟩, after⟩ <;> rw [h] at later
        · cases later
        · obtain ⟨index, next, below⟩ :=
            position_visitsAll (here.finish node st) around rest after v later
          rw [Enclosing.length_finish] at next
          exact ⟨index, Nat.le_of_succ_le next, below⟩
termination_by sizeOf nodes

end

/-- Two positions that go through different elements beside each other. -/
theorem ne_of_suffix {i j : Nat} {parent p q : List Nat} (first : i :: parent <:+ p)
    (second : j :: parent <:+ q) (apart : i ≠ j) : p ≠ q := by
  rintro rfl
  have same : i :: parent = j :: parent :=
    (List.suffix_of_suffix_length_le first second (Nat.le_refl _)).eq_of_length rfl
  exact apart (List.cons.inj same).1

mutual

/-- No two visits of a walk are at the same position. -/
theorem nodup_positions (around : List Enclosing) (node : Node) (st : LayoutState) :
    ((s.visits data around node st).map Visit.position).Nodup := by
  cases h : s.renderers.render node data (s.site st) with
  | error e =>
      rw [visits_refused h]
      exact List.pairwise_singleton _ _
  | ok outcome =>
      rw [visits_entered h, List.map_cons, List.nodup_cons]
      split
      · refine ⟨fun again => ?_, nodup_positionsAll ⟨node, st, []⟩ around node.children _⟩
        -- an element inside stands further down
        obtain ⟨v, inside, same⟩ := List.mem_map.mp again
        obtain ⟨index, -, below⟩ :=
          s.position_visitsAll data ⟨node, st, []⟩ around node.children _ v inside
        have longer := below.length_le
        rw [same, List.length_cons] at longer
        exact absurd longer (Nat.not_succ_le_self _)
      · exact ⟨List.not_mem_nil, List.nodup_nil⟩
termination_by sizeOf node
decreasing_by exact node.sizeOf_children_lt

theorem nodup_positionsAll (here : Enclosing) (around : List Enclosing) (nodes : List Node)
    (st : LayoutState) : ((s.visitsAll data here around nodes st).map Visit.position).Nodup := by
  cases nodes with
  | nil => exact List.nodup_nil
  | cons node rest =>
      rw [visitsAll, List.map_append, List.nodup_append]
      refine ⟨nodup_positions (here :: around) node st, ?_, fun p first q later => ?_⟩
      · rcases s.walk data node st with ⟨e | ⟨⟩, after⟩
        · exact List.nodup_nil
        · exact nodup_positionsAll (here.finish node st) around rest after
      · obtain ⟨v, visited, rfl⟩ := List.mem_map.mp first
        obtain ⟨w, visited', rfl⟩ := List.mem_map.mp later
        rcases h : s.walk data node st with ⟨e | ⟨⟩, after⟩ <;> rw [h] at visited'
        · cases visited'
        · obtain ⟨index, next, below⟩ :=
            s.position_visitsAll data (here.finish node st) around rest after w visited'
          rw [Enclosing.length_finish] at next
          exact ne_of_suffix (s.position_visits data (here :: around) node st v visited) below
            (Nat.ne_of_lt next)
termination_by sizeOf nodes

end

end Setting

/-! ### Taking elements out -/

namespace Setting

variable {s : Setting} (data : Json)

section Omits

variable {data} {node : Node} {st : LayoutState} (omits : s.Omits data node st)

include omits

theorem Omits.leaf : node.kind.descends = false := by
  unfold Omits at omits
  cases kind : node.kind with
  | text _ | image => rfl
  | container | scope | constants | unknown => simp only [kind] at omits

theorem Omits.outcome : node.kind.outcome node data (s.site st) = .nothing := by
  cases kind : node.kind with
  | text source =>
      have refused := (omits_text kind).mp omits
      rw [ElementKind.outcome, TextElement.outcome, refused]
      rfl
  | image =>
      have absent := (omits_image kind).mp omits
      rw [ElementKind.outcome, ImageElement.outcome, absent]
  | container | scope | constants | unknown => simp only [Omits, kind] at omits

/-- An element that amounts to nothing leaves the state as it is. -/
theorem Omits.walk (builtin : s.renderers = .builtin) : s.walk data node st = (.ok (), st) := by
  have entered : s.opened data node st = st := by
    rw [opened, omits.outcome]
    exact st.enter_passThrough
  have filled : s.filled data node st = st := by
    rw [Setting.filled, omits.leaf, if_neg Bool.false_ne_true, entered]
  rw [walk_builtin data builtin, filled, omits.outcome]
  rfl

end Omits

variable (dropped : List (List Nat))

mutual

theorem walk_without (builtin : s.renderers = .builtin) (around : List Enclosing) (node : Node)
    (st : LayoutState) (omitted : ∀ v ∈ s.visits data around node st, v.position ∈ dropped →
      s.Omits data v.node v.state) :
    s.walk data (node.without dropped (Enclosing.progress around)) st = s.walk data node st := by
  cases descends : node.kind.descends with
  | false => rw [Node.without_leaf descends]
  | true =>
      rw [visits_builtin data builtin, if_pos descends] at omitted
      have inside : s.walkAll data
          (Node.withoutAll dropped (Enclosing.progress around) 0 node.children)
          (s.opened data node st) = s.walkAll data node.children (s.opened data node st) :=
        walkAll_without builtin ⟨node, st, []⟩ around node.children _ fun v visited =>
          omitted v (List.mem_cons_of_mem _ visited)
      have laid := Node.ne_constants descends
      rw [Node.without_descends descends]
      exact (walk_children data builtin (fun kind => absurd kind laid) inside.symm).symm
termination_by sizeOf node
decreasing_by exact node.sizeOf_children_lt

theorem walkAll_without (builtin : s.renderers = .builtin) (here : Enclosing)
    (around : List Enclosing) (nodes : List Node) (st : LayoutState)
    (omitted : ∀ v ∈ s.visitsAll data here around nodes st, v.position ∈ dropped →
      s.Omits data v.node v.state) :
    s.walkAll data
      (Node.withoutAll dropped (Enclosing.progress around) here.done.length nodes) st =
        s.walkAll data nodes st := by
  cases nodes with
  | nil => rfl
  | cons node rest =>
      simp only [visitsAll_builtin data builtin, List.mem_append] at omitted
      have others := walkAll_without builtin (here.finish node st) around rest
        (s.walk data node st).2 fun v later => omitted v (.inr later)
      rw [Enclosing.length_finish] at others
      rw [Node.withoutAll, walkAll_cons data builtin node]
      by_cases out : here.done.length :: Enclosing.progress around ∈ dropped
      · have root := s.self_mem_visits data (here :: around) node st
        have nothing := (omitted _ (.inl root) out).walk builtin
        rw [nothing] at others
        rw [if_pos out, nothing]
        exact others
      · have first := walk_without builtin (here :: around) node st fun v visited =>
          omitted v (.inl visited)
        rw [if_neg out, walkAll_cons data builtin, ← others]
        exact congrArg (fun walked => s.walkAll data _ walked.2) first
termination_by sizeOf nodes

end

mutual

/-- A walk comes to the elements that are left as before, in the same states. -/
theorem visits_without (builtin : s.renderers = .builtin) (around around' : List Enclosing)
    (node : Node) (st : LayoutState) (stays : Enclosing.progress around ∉ dropped)
    (omitted : ∀ v ∈ s.visits data around node st, v.position ∈ dropped →
      s.Omits data v.node v.state) :
    (s.visits data around' (node.without dropped (Enclosing.progress around)) st).map
        Visit.alone =
      ((s.visits data around node st).filter fun v => v.position ∉ dropped).map Visit.alone := by
  have root : decide (Visit.position ⟨node, st, around⟩ ∉ dropped) = true := decide_eq_true stays
  rw [visits_builtin data builtin around] at omitted ⊢
  rw [visits_builtin data builtin around', List.filter_cons, if_pos root, List.map_cons,
    List.map_cons, Node.kind_without]
  cases descends : node.kind.descends with
  | false =>
      rw [Node.without_leaf descends]
      rfl
  | true =>
      rw [if_pos descends] at omitted
      have inside := visitsAll_without builtin ⟨node, st, []⟩
        ⟨node.without dropped (Enclosing.progress around), st, []⟩ around around' node.children
        (s.opened data node st) fun v visited => omitted v (List.mem_cons_of_mem _ visited)
      have laid := Node.ne_constants descends
      have opened : s.opened data node st = s.opened data { node with
          children := Node.withoutAll dropped (Enclosing.progress around) 0 node.children } st :=
        s.opened_children data fun kind => absurd kind laid
      rw [if_pos rfl, if_pos rfl, Node.without_descends descends, ← opened]
      rw [Node.without_descends descends] at inside
      exact congrArg (_ :: ·) inside
termination_by sizeOf node
decreasing_by exact node.sizeOf_children_lt

theorem visitsAll_without (builtin : s.renderers = .builtin) (here here' : Enclosing)
    (around around' : List Enclosing) (nodes : List Node) (st : LayoutState)
    (omitted : ∀ v ∈ s.visitsAll data here around nodes st, v.position ∈ dropped →
      s.Omits data v.node v.state) :
    (s.visitsAll data here' around'
        (Node.withoutAll dropped (Enclosing.progress around) here.done.length nodes) st).map
        Visit.alone =
      ((s.visitsAll data here around nodes st).filter fun v => v.position ∉ dropped).map
        Visit.alone := by
  cases nodes with
  | nil => rfl
  | cons node rest =>
      simp only [visitsAll_builtin data builtin, List.mem_append] at omitted
      rw [Node.withoutAll, visitsAll_builtin data builtin, List.filter_append, List.map_append]
      have others (here' : Enclosing) := visitsAll_without builtin (here.finish node st) here'
        around around' rest (s.walk data node st).2 fun v later => omitted v (.inr later)
      rw [Enclosing.length_finish] at others
      by_cases out : here.done.length :: Enclosing.progress around ∈ dropped
      · have root := s.self_mem_visits data (here :: around) node st
        have omits := omitted _ (.inl root) out
        have alone : s.visits data (here :: around) node st = [⟨node, st, here :: around⟩] := by
          rw [visits_builtin data builtin, omits.leaf, if_neg Bool.false_ne_true]
        have gone : decide (Visit.position ⟨node, st, here :: around⟩ ∉ dropped) = false :=
          decide_eq_false (not_not_intro out)
        have unchanged : (s.walk data node st).2 = st := congrArg Prod.snd (omits.walk builtin)
        rw [unchanged] at others ⊢
        rw [if_pos out, others here', alone, List.filter_cons, gone, if_neg Bool.false_ne_true]
        rfl
      · have first := visits_without builtin (here :: around) (here' :: around') node st out
          fun v visited => omitted v (.inl visited)
        have same := s.walk_without data dropped builtin (here :: around) node st
          fun v visited => omitted v (.inl visited)
        rw [Enclosing.progress, List.map_cons, ← Enclosing.progress] at first same
        rw [if_neg out, visitsAll_builtin data builtin, List.map_append, first, same, others]
termination_by sizeOf nodes

end

end Setting

/-! ### Contents -/

/-- The text of an item, if it is not an image. -/
def ItemContent.text? : ItemContent → Option String
  | .text content .. => some content
  | .image .. => none

theorem Item.layout_text? (compose : Composer) (i : Item) :
    (i.layout compose).content.text? = i.content.text? := by
  cases h : i.content <;> simp only [layout, h, ItemContent.text?]

theorem Item.fitHeight_text? (compose : Composer) (i : Item) :
    (i.fitHeight compose).content.text? = i.content.text? := by
  unfold fitHeight
  split <;> exact layout_text? compose _

theorem TextElement.outcome_valid (source : TextSource) (node : Node) (data : Json) (site : Site) :
    ∀ i ∈ (outcome source node data site).items, ∀ content, i.content.text? = some content →
      site.services.valid content = true := by
  intro i left content given
  obtain ⟨valid, placed⟩ := item_of_mem left
  have own : i.content.text? = some (cleanedContent source node data site) := by
    rcases placed with rfl | rfl
    · rfl
    · exact Item.fitHeight_text? _ _
  obtain rfl := Option.some.inj (given.symm.trans own)
  exact valid

/-- No element leaves a text that the services refuse. -/
theorem ElementKind.outcome_valid (kind : ElementKind) (node : Node) (data : Json) (site : Site) :
    ∀ i ∈ (kind.outcome node data site).items, ∀ content, i.content.text? = some content →
      site.services.valid content = true := by
  intro i left content given
  cases kind with
  | text source => exact TextElement.outcome_valid source node data site i left content given
  | image =>
      obtain ⟨key, intrinsic, frame, rfl⟩ := ImageElement.item_of_mem left
      cases given
  | container | scope | constants | unknown => cases left

/-- Of the elements with content, those that amount to nothing leave no item, and only those. -/
theorem Setting.omits_iff {s : Setting} (data : Json) (builtin : s.renderers = .builtin)
    (v : Visit) : s.Omits data v.node v.state ↔
      v.node.kind.showsContent = true ∧ s.itemsAt data v = [] := by
  rw [itemsAt_builtin data builtin]
  cases kind : v.node.kind with
  | text source =>
      rw [omits_text kind, ElementKind.outcome, TextElement.outcome]
      cases (s.site v.state).services.valid
          (TextElement.cleanedContent source v.node data (s.site v.state)) with
      | false => exact iff_of_true rfl ⟨rfl, rfl⟩
      | true =>
          refine iff_of_false Bool.noConfusion ?_
          rintro ⟨-, nothing⟩
          simp only [Bool.not_true, Bool.false_eq_true, if_false] at nothing
          split at nothing <;> cases nothing
  | image =>
      rw [omits_image kind, ElementKind.outcome, ImageElement.outcome]
      cases ImageElement.image? v.node data (s.site v.state) with
      | none => exact iff_of_true rfl ⟨rfl, rfl⟩
      | some image =>
          refine iff_of_false (Option.some_ne_none _) ?_
          rintro ⟨-, nothing⟩
          cases nothing
  | container | scope | constants | unknown =>
      refine iff_of_false (by rw [Omits, kind]; exact id) ?_
      rintro ⟨shows, -⟩
      cases shows

/-! ### Layout -/

/-- With the built-in renderers, no text that the services refuse is placed. The elements that
    amount to nothing are those texts and images that leave no item, and they make no difference: if
    such an element is the root, nothing happens at all, and any others below the root can be taken
    out together. Then the same items are given, and the builder ends up the same: its items,
    constants and cascade, and what is used up in its containers. On the way the walk comes to the
    elements that are left one after the other, each in the same state as before. -/
theorem Builder.layout_omitted (b : Builder) (builtin : b.renderers = .builtin) (map : Node)
    (data : Json) :
    (∃ items, (b.layout map data).1 = .ok items ∧
      ∀ i ∈ items, ∀ content, i.content.text? = some content →
        b.services.valid content = true) ∧
    (∀ v ∈ b.visits map data, b.toSetting.Omits data v.node v.state ↔
      v.node.kind.showsContent = true ∧ b.toSetting.itemsAt data v = []) ∧
    (b.toSetting.Omits data map b.toLayoutState → b.layout map data = (.ok [], b)) ∧
    ∀ omitted : List Visit,
      (∀ v ∈ omitted, v ∈ b.visits map data ∧ v.around ≠ [] ∧
        b.toSetting.Omits data v.node v.state) →
      let positions := omitted.map Visit.position
      let rest := map.without positions []
      b.layout rest data = b.layout map data ∧
      (b.visits rest data).map Visit.alone =
        ((b.visits map data).filter fun v => v.position ∉ positions).map Visit.alone := by
  refine ⟨⟨_, b.layout_placements builtin map data, fun i placed => ?_⟩,
    fun v _ => b.toSetting.omits_iff data builtin v, fun omits => ?_, fun omitted amount => ?_⟩
  · obtain ⟨⟨v, i⟩, left, rfl⟩ := List.mem_map.mp placed
    obtain ⟨-, own⟩ := mem_placements.mp left
    rw [Setting.itemsAt_builtin data builtin] at own
    exact v.node.kind.outcome_valid v.node data (b.toSetting.site v.state) i own
  · rw [layout_advanced data builtin, omits.walk builtin, advanced, List.drop_length]
  · intro positions rest
    -- an element at the position of one that is taken out is that element
    have only : ∀ v ∈ b.visits map data, v.position ∈ positions →
        b.toSetting.Omits data v.node v.state := by
      intro v visited out
      obtain ⟨w, taken, same⟩ := List.mem_map.mp out
      obtain ⟨visited', -, omits⟩ := amount w taken
      have distinct := b.toSetting.nodup_positions data [] map b.toLayoutState
      rwa [← List.inj_on_of_nodup_map distinct visited' visited same]
    have root : [] ∉ positions := by
      intro out
      obtain ⟨w, taken, top⟩ := List.mem_map.mp out
      exact (amount w taken).2.1 (List.map_eq_nil_iff.mp top)
    have walked := b.toSetting.walk_without data positions builtin [] map b.toLayoutState only
    refine ⟨?_, b.toSetting.visits_without data positions builtin [] [] map b.toLayoutState root
      only⟩
    rw [layout_advanced data builtin, layout_advanced data builtin]
    exact congrArg (fun walk => b.advanced walk.2) walked

/-- A panel with three texts. Between them stand a text without content, inside a group, and an
    image that nothing names. -/
def Node.halfEmpty : Node :=
  ⟨"StackPanel", ⟨[("YSpacing", "7")], by decide⟩,
    [⟨"Text", .empty, [], "first"⟩,
      ⟨"Group", ⟨[("FontSize", "6")], by decide⟩,
        [.bare "Text", ⟨"Text", .empty, [], "second"⟩], ""⟩,
      .bare "Image", ⟨"Text", .empty, [], "third"⟩], ""⟩

/-- The tree without its two empty elements. -/
def Node.halfEmptied : Node :=
  ⟨"StackPanel", ⟨[("YSpacing", "7")], by decide⟩,
    [⟨"Text", .empty, [], "first"⟩,
      ⟨"Group", ⟨[("FontSize", "6")], by decide⟩, [⟨"Text", .empty, [], "second"⟩], ""⟩,
      ⟨"Text", .empty, [], "third"⟩], ""⟩

/-- A builder that places no empty texts. -/
def Builder.nonempty : Builder :=
  { twentyHigh with
    services := { twentyHigh.services with valid := fun content => !content.isEmpty } }

theorem Builder.layout_omitted_halfEmpty :
    let s := nonempty.toSetting
    let visits := nonempty.visits .halfEmpty .null
    (s.Omits .null (.bare "Text") nonempty.toLayoutState ∧
      nonempty.layout (.bare "Text") .null = (.ok [], nonempty)) ∧
    (∃ text ∈ visits, s.Omits .null text.node text.state) ∧
    (∃ image ∈ visits, s.Omits .null image.node image.state) ∧
    nonempty.layout .halfEmptied .null = nonempty.layout .halfEmpty .null ∧
    (nonempty.visits .halfEmptied .null).map Visit.alone =
      (visits.filter fun v => v.position ∉ [[0, 1], [2]]).map Visit.alone := by
  intro s visits
  have blank : s.Omits .null (.bare "Text") nonempty.toLayoutState := by decide +kernel
  obtain ⟨-, -, root, -⟩ := layout_omitted nonempty rfl (.bare "Text") .null
  obtain ⟨-, -, -, out⟩ := layout_omitted nonempty rfl .halfEmpty .null
  have fourth : ∃ v ∈ visits[3]?, v.position = [0, 1] ∧ s.Omits .null v.node v.state := by
    decide +kernel
  have sixth : ∃ v ∈ visits[5]?, v.position = [2] ∧ s.Omits .null v.node v.state := by
    decide +kernel
  obtain ⟨text, visit, place, omits⟩ := fourth
  obtain ⟨image, visit', place', omits'⟩ := sixth
  have visited := List.mem_of_getElem? visit
  have visited' := List.mem_of_getElem? visit'
  have amount : ∀ v ∈ [text, image],
      v ∈ visits ∧ v.around ≠ [] ∧ s.Omits .null v.node v.state := by
    have below {v : Visit} (place : v.position ≠ []) : v.around ≠ [] :=
      fun top => place (List.map_eq_nil_iff.mpr top)
    rw [List.forall_mem_cons, List.forall_mem_singleton]
    exact ⟨⟨visited, below (by simp [place]), omits⟩, visited', below (by simp [place']), omits'⟩
  have taken : Node.halfEmpty.without [[0, 1], [2]] [] = .halfEmptied := rfl
  have same := out [text, image] amount
  simp only [List.map_cons, List.map_nil, place, place', taken] at same
  exact ⟨⟨blank, root blank⟩, ⟨text, visited, omits⟩, ⟨image, visited', omits'⟩, same⟩

end PageMap
