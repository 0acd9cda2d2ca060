import PageMap.Proofs.Builtin
/-! # Constants that are loaded, and constants that are laid out

There are two ways to the constants of a map. Loading looks at every element there is; layout only
sees the elements that it comes to. Both find the same constants as long as no constants element
hides below one whose children are never laid out. The main statement is
`Builder.load_agrees_with_layout`.
-/

namespace PageMap

namespace Node

mutual

/-- All elements of a tree, in the order of the document. -/
def elements : Node → List Node
  | ⟨name, attributes, children, text⟩ =>
      ⟨name, attributes, children, text⟩ :: elementsAll children

def elementsAll : List Node → List Node
  | [] => []
  | node :: rest => node.elements ++ elementsAll rest

end

theorem elements_eq (node : Node) : node.elements = node :: elementsAll node.children := by
  obtain ⟨name, attributes, children, text⟩ := node
  rw [elements]

/-- The constants elements among some elements. -/
def constantsAmong (elements : List Node) : List Node :=
  elements.filter fun node => node.name = "Constants"

/-- A constants element stands below this element, and the children of this element are not laid
    out. -/
def HidesConstants (node : Node) : Prop :=
  node.name ∈ ["Text", "Property", "Image", "Constants"] ∧
    ∃ inner ∈ elementsAll node.children, inner.name = "Constants"

instance (node : Node) : Decidable node.HidesConstants :=
  inferInstanceAs (Decidable (_ ∧ ∃ inner ∈ elementsAll node.children, inner.name = "Constants"))

theorem descends_eq_false {node : Node} :
    node.kind.descends = false ↔ node.name ∈ ["Text", "Property", "Image", "Constants"] := by
  simp only [List.mem_cons, List.not_mem_nil, or_false]
  grind [kind, ElementKind.ofName, ElementKind.descends]

/-- The constants that an element defines itself. -/
def ownDefinitions (node : Node) : List (String × String) :=
  if node.kind = .constants then ConstantsElement.entries node else []

theorem flatMap_constantsAmong (elements : List Node) :
    (constantsAmong elements).flatMap ConstantsElement.entries =
      elements.flatMap ownDefinitions := by
  induction elements with
  | nil => rfl
  | cons node rest ih =>
      rw [constantsAmong, List.filter_cons, List.flatMap_cons, ownDefinitions, ← ih]
      by_cases constants : node.name = "Constants"
      · rw [if_pos (by simpa using constants), if_pos (kind_eq_constants.mpr constants)]
        rfl
      · rw [if_neg (by simpa using constants), if_neg (mt kind_eq_constants.mp constants)]
        rfl

end Node

/-! ### Loading -/

namespace Renderers

theorem builtin_load (node : Node) : builtin.load node = node.ownDefinitions := by
  have found : builtin.get? node.name = node.kind.renderer? := ElementKind.builtin_get? node.name
  rw [load, found, Node.ownDefinitions]
  cases node.kind <;> rfl

mutual

theorem builtin_constants (map : Node) :
    builtin.constants map = map.elements.flatMap Node.ownDefinitions := by
  obtain ⟨name, attributes, children, text⟩ := map
  rw [constants, builtin_load, builtin_constantsAll children, Node.elements, List.flatMap_cons]
termination_by sizeOf map

theorem builtin_constantsAll (maps : List Node) :
    builtin.constantsAll maps = (Node.elementsAll maps).flatMap Node.ownDefinitions := by
  cases maps with
  | nil => rfl
  | cons map rest =>
      rw [constantsAll, builtin_constants map, builtin_constantsAll rest, Node.elementsAll,
        List.flatMap_append]
termination_by sizeOf maps

end

end Renderers

/-! ### Layout -/

namespace Node

mutual

/-- Layout comes to every constants element that is not hidden. -/
theorem definitions_eq_flatMap (map : Node)
    (inReach : ∀ node ∈ map.elements, ¬node.HidesConstants) :
    map.definitions = map.elements.flatMap ownDefinitions := by
  rw [elements_eq] at inReach ⊢
  rw [definitions_eq, List.flatMap_cons]
  change map.ownDefinitions ++ _ = _
  congr 1
  cases descends : map.kind.descends with
  | true =>
      exact definitionsAll_eq_flatMap map.children fun node member =>
        inReach node (List.mem_cons_of_mem _ member)
  | false =>
      -- what is not laid out has nothing to define
      refine (List.flatMap_eq_nil_iff.mpr fun inner member => if_neg fun kind => ?_).symm
      exact inReach map List.mem_cons_self
        ⟨descends_eq_false.mp descends, inner, member, kind_eq_constants.mp kind⟩
termination_by sizeOf map
decreasing_by exact map.sizeOf_children_lt

theorem definitionsAll_eq_flatMap (maps : List Node)
    (inReach : ∀ node ∈ elementsAll maps, ¬node.HidesConstants) :
    definitionsAll maps = (elementsAll maps).flatMap ownDefinitions := by
  cases maps with
  | nil => rfl
  | cons map rest =>
      rw [elementsAll] at inReach ⊢
      rw [definitionsAll, List.flatMap_append,
        definitions_eq_flatMap map fun node member => inReach node (List.mem_append_left _ member),
        definitionsAll_eq_flatMap rest fun node member =>
          inReach node (List.mem_append_right _ member)]
termination_by sizeOf maps

end

end Node

/-! ### Agreement -/

namespace Builder

variable {b : Builder} (builtin : b.renderers = .builtin) (map : Node)

include builtin

theorem load_definitions : b.load map =
    let defined := map.elements.flatMap Node.ownDefinitions
    (defined.map (·.1), { b with constants := b.constants.insertAll defined }) := by
  simp only [load, builtin, Renderers.builtin_constants]

theorem layout_definitions (inReach : ∀ node ∈ map.elements, ¬node.HidesConstants) (data : Json) :
    (b.layout map data).2.constants =
      b.constants.insertAll (map.elements.flatMap Node.ownDefinitions) := by
  rw [← Node.definitions_eq_flatMap map inReach]
  exact b.toSetting.walk_constants data builtin map b.toLayoutState

end Builder

theorem ConstantsElement.names_entries (node : Node) :
    (entries node).map (·.1) = node.children.map (·.name) := by
  simp only [entries, List.map_map, Function.comp_def]

/-- Loading takes in the constants of a map and changes nothing else. It gives the names of the
    children of all constants elements in the order of the document, as often as they stand there.
    If none of these elements is hidden from layout, the constants are those that layout leaves
    behind, whatever the data: every name stands where it first came, with the value that it was
    given last. Then neither loading the map again nor laying it out again makes a difference to
    them. -/
theorem Builder.load_agrees_with_layout (b : Builder) (builtin : b.renderers = .builtin)
    (map : Node) (inReach : ∀ node ∈ map.elements, ¬node.HidesConstants) (data data' : Json) :
    let loaded := (b.load map).2
    let laid := (b.layout map data).2
    let defined := (Node.constantsAmong map.elements).flatMap ConstantsElement.entries
    (b.load map).1 = (Node.constantsAmong map.elements).flatMap (·.children.map (·.name)) ∧
    loaded = { b with constants := loaded.constants } ∧
    loaded.constants = laid.constants ∧
    loaded.constants.names = (b.constants.names ++ defined.map (·.1)).eraseDups ∧
    (∀ name, loaded.constants.get? name =
      (defined.reverse.lookup name).or (b.constants.get? name)) ∧
    (loaded.load map).2.constants = loaded.constants ∧
    (loaded.layout map data').2.constants = loaded.constants ∧
    (laid.load map).2.constants = laid.constants ∧
    (laid.layout map data').2.constants = laid.constants := by
  intro loaded laid defined
  have own : defined = map.elements.flatMap Node.ownDefinitions := Node.flatMap_constantsAmong _
  have names : defined.map (·.1) =
      (Node.constantsAmong map.elements).flatMap (·.children.map (·.name)) := by
    simp only [defined, List.map_flatMap, ConstantsElement.names_entries]
  have load (c : Builder) (same : c.renderers = .builtin) :
      (c.load map).2.constants = c.constants.insertAll defined := by
    rw [load_definitions same, own]
  have layout (c : Builder) (same : c.renderers = .builtin) (data : Json) :
      (c.layout map data).2.constants = c.constants.insertAll defined := by
    rw [layout_definitions same map inReach, own]
  have again : (b.constants.insertAll defined).insertAll defined = b.constants.insertAll defined :=
    b.constants.insertAll_insertAll defined
  have loadedConstants : loaded.constants = b.constants.insertAll defined := load b builtin
  have laidConstants : laid.constants = b.constants.insertAll defined := layout b builtin data
  refine ⟨?_, rfl, ?_, ?_, fun name => ?_, ?_, ?_, ?_, ?_⟩
  · rw [load_definitions builtin, ← names, own]
  · rw [loadedConstants, laidConstants]
  · rw [loadedConstants, Dictionary.names_insertAll]
  · rw [loadedConstants, Dictionary.get?_insertAll]
  · rw [load loaded builtin, loadedConstants, again]
  · rw [layout loaded builtin data', loadedConstants, again]
  · rw [load laid builtin, laidConstants, again]
  · rw [layout laid builtin data', laidConstants, again]

/-- Two blocks of constants, one of them in a group. Both define a title. -/
def Node.twoTitles : Node :=
  ⟨"StackPanel", .empty,
    [⟨"Constants", .empty, [⟨"Title", .empty, [], "Draft"⟩, ⟨"Year", .empty, [], "1"⟩], ""⟩,
      ⟨"Group", .empty, [⟨"Constants", .empty, [⟨"Title", .empty, [], "Final"⟩], ""⟩], ""⟩], ""⟩

theorem Builder.load_agrees_with_layout_titles :
    let b := new .default .default
    (∀ node ∈ Node.twoTitles.elements, ¬node.HidesConstants) ∧
    (b.load .twoTitles).1 = ["Title", "Year", "Title"] ∧
    (b.load .twoTitles).2.constants = (b.layout .twoTitles .null).2.constants ∧
    (b.load .twoTitles).2.constants.names = ["Title", "Year"] ∧
    (b.load .twoTitles).2.constants.get? "Title" = some "Final" := by
  intro b
  have inReach : ∀ node ∈ Node.twoTitles.elements, ¬node.HidesConstants := by decide +kernel
  obtain ⟨given, -, agree, names, values, -⟩ :=
    load_agrees_with_layout b rfl .twoTitles inReach .null .null
  refine ⟨inReach, given.trans ?_, agree, names.trans ?_, (values "Title").trans ?_⟩ <;>
    decide +kernel

end PageMap
