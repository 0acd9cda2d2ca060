import PageMap.Proofs.FlowPlacement
/-! # What elements see of the cascade

An element that cascades gives each key at most one value, so that what is inside of it sees either
that value or what was in effect before. Of all the values on the stacks, what an element amounts to
depends on the tops alone.
-/

namespace PageMap

theorem StyleKey.ofName?_eq_some {name : String} {key : StyleKey} :
    ofName? name = some key ↔ name = key.name := by
  constructor
  · intro found
    have named : key.name = name := by simpa using List.find?_some found
    exact named.symm
  · rintro rfl
    cases key <;> decide

namespace Resolver

/-- The value that an element gives to a key, if it gives one that can be read. -/
def given? (r : Resolver) (node : Node) (key : StyleKey) : Option StyleValue :=
  (node.attr? key.name).bind fun raw => (r.read key raw).toOption

/-- A value that cannot be read hides what is around the element all the same. -/
theorem resolve?_eq (r : Resolver) (key : StyleKey) (node : Node) : r.resolve? key node =
    if node.hasAttr key.name then (r.given? node key).or key.default? else r.inherited? key := by
  have present : node.hasAttr key.name = (node.attr? key.name).isSome := rfl
  rw [resolve?, given?, present]
  cases node.attr? key.name <;> rfl

theorem declared_of_key (r : Resolver) (node : Node) (key : StyleKey) :
    ((r.declared node).filterMap fun entry => if entry.1 = key then some entry.2 else none) =
      (r.given? node key).toList := by
  rw [given?, Node.attr?, ← Dictionary.filterMap_name, declared, List.filterMap_filterMap]
  congr 1
  funext ⟨name, raw⟩
  simp only [Option.bind_eq_bind, Option.pure_def]
  cases found : StyleKey.ofName? name with
  | none =>
      have other : name ≠ key.name := fun same => by
        simp [StyleKey.ofName?_eq_some.mpr same] at found
      simp only [other, if_false, Option.bind_none]
  | some first =>
      obtain rfl := StyleKey.ofName?_eq_some.mp found
      rw [Option.bind_some]
      -- two keys do not share a name
      by_cases same : first = key
      · subst same
        cases (r.read first raw).toOption <;> simp
      · have other : first.name ≠ key.name := fun names => same <| by
          rw [StyleKey.ofName?_eq_some.mpr names] at found
          exact (Option.some.inj found).symm
        cases (r.read first raw).toOption <;> simp [same, other]

/-- Inside an element that cascades its own values count, and for other keys what is around it. -/
theorem top?_pushAll_declared (r : Resolver) (c : Cascade) (node : Node) (key : StyleKey) :
    (c.pushAll (r.declared node)).top? key = (r.given? node key).or (c.top? key) := by
  rw [Cascade.top?_eq_head?, Cascade.stack_pushAll, declared_of_key, Cascade.top?_eq_head?]
  cases r.given? node key <;> rfl

/-! ### Only the tops count -/

section Tops

variable {r : Resolver} {c : Cascade} (tops : ∀ key, c.top? key = r.cascade.top? key)

include tops

theorem resolve?_of_tops (key : StyleKey) (node : Node) :
    { r with cascade := c }.resolve? key node = r.resolve? key node := by
  have inherited : { r with cascade := c }.inherited? key = r.inherited? key := by
    simp only [inherited?, tops]
    rfl
  simp only [resolve?, inherited]
  rfl

theorem length_of_tops (key : StyleKey) (node : Node) :
    { r with cascade := c }.length key node = r.length key node := by
  simp only [length, resolve?_of_tops tops]

theorem keyPath?_of_tops (node : Node) :
    { r with cascade := c }.keyPath? node = r.keyPath? node := by
  simp only [keyPath?, resolve?_of_tops tops]

theorem textStyle_of_tops (node : Node) :
    { r with cascade := c }.textStyle node = r.textStyle node := by
  simp only [textStyle, horizontal, vertical, resolve?_of_tops tops]

end Tops

end Resolver

/-- The same site with other values in effect. -/
def Site.restyled (site : Site) (c : Cascade) : Site :=
  { site with styles := { site.styles with cascade := c } }

section Tops

variable {site : Site} {c : Cascade} (tops : ∀ key, c.top? key = site.styles.cascade.top? key)

include tops

theorem Site.frame_of_tops (node : Node) (container : Rect) :
    (site.restyled c).frame node container = site.frame node container := by
  simp only [frame, border?, restyled, Resolver.horizontal, Resolver.vertical, Resolver.color?,
    Resolver.length_of_tops tops, Resolver.resolve?_of_tops tops]

theorem TextElement.cleanedContent_of_tops (source : TextSource) (node : Node) (data : Json) :
    cleanedContent source node data (site.restyled c) = cleanedContent source node data site := by
  simp only [cleanedContent, content, Site.restyled, Resolver.keyPath?_of_tops tops]
  rfl

theorem TextElement.frameItem_of_tops (node : Node) (content : String) :
    frameItem node (site.restyled c) content = frameItem node site content := by
  simp only [frameItem, Site.frame_of_tops tops]
  simp only [Site.restyled, Resolver.textStyle_of_tops tops]
  rfl

theorem ImageElement.image?_of_tops (node : Node) (data : Json) :
    image? node data (site.restyled c) = image? node data site := by
  simp only [image?, key?, Site.restyled, Resolver.keyPath?_of_tops tops]
  rfl

/-- What an element amounts to depends on the tops of the stacks, and on nothing else in them. -/
theorem ElementKind.outcome_of_tops (kind : ElementKind) (node : Node) (data : Json) :
    kind.outcome node data (site.restyled c) = kind.outcome node data site := by
  cases kind with
  | text source =>
      simp only [outcome, TextElement.outcome, TextElement.cleanedContent_of_tops tops,
        TextElement.frameItem_of_tops tops]
      rfl
  | image =>
      simp only [outcome, ImageElement.outcome, ImageElement.image?_of_tops tops,
        Site.frame_of_tops tops]
      rfl
  | container | scope | constants | unknown => rfl

theorem Site.spaced_of_tops (node : Node) (height : Single) :
    (site.restyled c).spaced node height = site.spaced node height := by
  simp only [spaced, restyled, Resolver.length_of_tops tops]

end Tops

end PageMap
