import PageMap.Proofs.Attribute.Keyword
import PageMap.Proofs.Omission
import PageMap.Proofs.Text.Trim
import PageMap.Proofs.Text.Words
/-! # Bindings on an element and around it

A text element can be bound to data by a key path of its own or by one that a group around it gives.
The first is used as it stands, the second is a style value and has to be well formed. Where it is,
both ways make no difference: the main statement is `Builder.layout_bound`.
-/

namespace PageMap

/-- A text element that only shows what it is bound to from outside. -/
structure Node.IsUnbound (node : Node) : Prop where
  name : node.name = "Text"
  property : node.attr? "Property" = none
  constant : node.attr? "Constant" = none
  blank : Text.allBlank node.text = true

/-- The element with a binding of its own. -/
def Node.bound (path : String) (node : Node) : Node :=
  { node with attributes := node.attributes.insert "Property" path }

/-- A group that gives a binding to an element in it. -/
def Node.binding (path : String) (node : Node) : Node :=
  ⟨"Group", ⟨[("Property", path)], by simp⟩, [node], ""⟩

/-! ### Key paths as style values -/

namespace Attribute

open Text

theorem isBlank_of_isSpace {c : Char} (space : isSpace c = true) : isBlank c = true := by
  simp only [isSpace, Bool.or_eq_true, decide_eq_true_eq] at space
  rcases space with ((rfl | rfl) | rfl) | rfl <;> rfl

theorem solid_of_word {word : List Char} (is : IsWord word) : ∀ c ∈ word, isSpace c = false := by
  intro c member
  by_contra space
  have blank := isBlank_of_isSpace (Bool.not_eq_false _ ▸ space)
  rw [is.solid c member] at blank
  cases blank

theorem solidRun?_append {word rest : List Char} (is : IsWord word)
    (behind : ∀ c ∈ rest, isBlank c = true) :
    solidRun? (word ++ rest) = some (String.ofList word, rest) := by
  have solid : ∀ c ∈ word, (!isBlank c) = true := fun c member => by simp [is.solid c member]
  have taken : (word ++ rest).takeWhile (fun c => !isBlank c) = word := by
    rw [List.takeWhile_append_of_pos solid]
    cases rest <;> simp_all
  have dropped : (word ++ rest).dropWhile (fun c => !isBlank c) = rest := by
    rw [List.dropWhile_append_of_pos solid]
    cases rest <;> simp_all
  rw [solidRun?, List.span_eq_takeWhile_dropWhile, taken, dropped]
  split
  · rename_i nothing
    exact absurd (congrArg Prod.fst nothing) is.nonempty
  · rename_i same
    cases same
    rfl

theorem exists_of_solidRun? {cs rest : List Char} {path : String}
    (found : solidRun? cs = some (path, rest)) :
    ∃ word, IsWord word ∧ cs = word ++ rest ∧ path = String.ofList word := by
  rw [solidRun?, List.span_eq_takeWhile_dropWhile] at found
  split at found
  · cases found
  · rename_i word after nonempty same
    obtain ⟨rfl, rfl⟩ := Prod.mk.inj same
    obtain ⟨rfl, rfl⟩ := Prod.mk.inj (Option.some.inj found)
    refine ⟨_, ⟨fun none_taken => ?_, fun c member => ?_⟩,
      List.takeWhile_append_dropWhile.symm, rfl⟩
    · exact nonempty none_taken
    · simpa using List.mem_takeWhile_imp member

/-- A text is a key path if it is one word with nothing but space around it. -/
theorem keyPath_eq_ok {raw path : String} :
    keyPath raw = .ok path ↔ IsWord (trimBy isSpace raw.toList) ∧
      path = String.ofList (trimBy isSpace raw.toList) := by
  simp only [keyPath, whole_eq_ok, spaced_eq_nil, plain_eq_ok]
  constructor
  · rintro ⟨rest, found, space⟩
    obtain ⟨word, is, skipped, rfl⟩ := exists_of_solidRun? found
    rw [Text.trimBy_eq skipped (solid_of_word is) space]
    exact ⟨is, rfl⟩
  · rintro ⟨is, rfl⟩
    obtain ⟨after, skipped, space⟩ := exists_skipSpace_eq raw.toList
    refine ⟨after, ?_, space⟩
    rw [skipped]
    exact solidRun?_append is fun c member => isBlank_of_isSpace (space c member)

/-- Space is blank, so that no more can be trimmed from a word. -/
theorem trimBy_of_word {cs : List Char} (is : IsWord (trimBy isSpace cs)) :
    trimBy isBlank cs = trimBy isSpace cs := by
  obtain ⟨before, split, front⟩ := exists_space cs
  obtain ⟨after, skipped, back⟩ := exists_skipSpace_eq cs
  have whole : cs = before ++ trimBy isSpace cs ++ after := by
    rw [List.append_assoc, ← skipped]
    exact split
  have trimmed := trimBy_append (fun c member => isBlank_of_isSpace (front c member)) is.solid
    fun c member => isBlank_of_isSpace (back c member)
  rwa [← whole] at trimmed

end Attribute

theorem StyleKey.name_ne_property {key : StyleKey} (other : key ≠ .property) :
    key.name ≠ "Property" := by
  cases key <;> first | decide | exact absurd rfl other

namespace Resolver

/-- A binding is read as a key path. -/
theorem read_property (r : Resolver) (raw : String) : (r.read .property raw).toOption =
    (Attribute.keyPath raw).toOption.map .keyPath := by
  cases read : Attribute.keyPath raw <;>
    simp [Resolver.read, StyleKey.read, StyleKey.kind, read, Except.map, Except.mapError,
      Except.toOption]

end Resolver

/-! ### Elements that differ in their binding -/

section Alike

variable {site : Site} {c : Cascade} {node bound : Node}
  (attrs : ∀ name, name ≠ "Property" → node.attr? name = bound.attr? name)
  (tops : ∀ key, key ≠ .property → c.top? key = site.styles.cascade.top? key)

include attrs

theorem geometry?_alike (r : Resolver) {name : String} (other : name ≠ "Property") :
    r.geometry? node name = r.geometry? bound name := by
  simp only [Resolver.geometry?, attrs name other]

theorem place_alike : site.place node = site.place bound := by
  simp only [Site.place, geometry?_alike attrs site.styles (show "X" ≠ "Property" by decide),
    geometry?_alike attrs site.styles (show "Y" ≠ "Property" by decide)]

include tops

theorem resolve?_alike {key : StyleKey} (other : key ≠ .property) :
    { site.styles with cascade := c }.resolve? key node = site.styles.resolve? key bound := by
  simp only [Resolver.resolve?, attrs _ (StyleKey.name_ne_property other), Resolver.inherited?,
    tops key other]
  rfl

theorem textStyle_alike :
    { site.styles with cascade := c }.textStyle node = site.styles.textStyle bound := by
  simp only [Resolver.textStyle, Resolver.horizontal, Resolver.vertical,
    resolve?_alike attrs tops, ne_eq, reduceCtorEq, not_false_eq_true]

theorem frame_alike (container : Rect) :
    (site.restyled c).frame node container = site.frame bound container := by
  simp only [Site.frame, Site.border?, Site.restyled, Resolver.horizontal, Resolver.vertical,
    Resolver.color?, Resolver.length, resolve?_alike attrs tops, ne_eq, reduceCtorEq,
    not_false_eq_true]
  rfl

theorem frameItem_alike (content : String) :
    TextElement.frameItem node (site.restyled c) content =
      TextElement.frameItem bound site content := by
  have place : (site.restyled c).place node = site.place bound := place_alike attrs
  have geometry {name : String} (other : name ≠ "Property") :
      (site.restyled c).styles.geometry? node name = site.styles.geometry? bound name :=
    geometry?_alike attrs site.styles other
  have style : (site.restyled c).styles.textStyle node = site.styles.textStyle bound :=
    textStyle_alike attrs tops
  simp only [TextElement.frameItem, place, style, frame_alike attrs tops,
    geometry (show "Width" ≠ "Property" by decide), geometry (show "Height" ≠ "Property" by decide)]
  rfl

/-- Two text elements with the same content that agree but for their bindings amount to the same. -/
theorem outcome_alike {data : Json}
    (content : TextElement.content .own node data (site.restyled c) =
      TextElement.content .own bound data site) :
    TextElement.outcome .own node data (site.restyled c) =
      TextElement.outcome .own bound data site := by
  have flag : Resolver.flag node "Trim" true = Resolver.flag bound "Trim" true := by
    simp only [Resolver.flag, attrs "Trim" (by decide)]
  have height : (site.restyled c).styles.geometry? node "Height" =
      site.styles.geometry? bound "Height" :=
    geometry?_alike attrs site.styles (by decide)
  simp only [TextElement.outcome, TextElement.cleanedContent, content, flag, height,
    frameItem_alike attrs tops]
  rfl

end Alike

/-! ### Content -/

namespace Node

variable {node : Node} (path : String)

theorem attr?_bound (name : String) : (node.bound path).attr? name =
    if name = "Property" then some path else node.attr? name :=
  Dictionary.lookup_insertEntry ..

theorem attr?_bound_other {name : String} (other : name ≠ "Property") :
    (node.bound path).attr? name = node.attr? name := by
  rw [attr?_bound, if_neg other]

theorem attr?_binding (name : String) : (node.binding path).attr? name =
    if name = "Property" then some path else none :=
  Dictionary.lookup_cons_name ("Property", path) [] name

end Node

namespace TextElement

variable {node : Node} {path : String} {data : Json} {site : Site}

theorem showBound_alike {bound : Node} {c : Cascade}
    (attrs : ∀ name, name ≠ "Property" → node.attr? name = bound.attr? name) (path : String) :
    showBound node data (site.restyled c) path = showBound bound data site path := by
  have format := attrs "Format" (by decide)
  have number : numberFormat node (site.restyled c) = numberFormat bound site := by
    simp only [numberFormat, format]
    rfl
  have date : dateFormat? node (site.restyled c) = dateFormat? bound site := by
    simp only [dateFormat?, attrs "DateFormat" (by decide)]
    rfl
  have wanted : node.hasAttr "Format" = bound.hasAttr "Format" := congrArg Option.isSome format
  have text (s : String) : showText node (site.restyled c) s = showText bound site s := by
    simp only [showText, number, date, wanted]
  simp only [showBound, number, text]
  rfl

theorem content_bound : content .own (node.bound path) data site =
    showBound (node.bound path) data site (Text.trim path) := by
  have own : (node.bound path).attr? "Property" = some path := node.attr?_bound path "Property"
  simp only [content, explicitPath?, own]

/-- The binding around an element counts where the element gives nothing of its own. -/
theorem content_unbound (unbound : node.IsUnbound) {value : StyleValue}
    (around : site.styles.inherited? .property = some value) {path : String}
    (given : value.text? = some path) :
    content .own node data site = showBound node data site path := by
  have nothing : ownText? node site = none := by
    simp only [ownText?, unbound.constant, unbound.blank, if_true]
  have bound : site.styles.keyPath? node = some path := by
    have resolved : site.styles.resolve? .property node = some value := by
      simp only [Resolver.resolve?, StyleKey.name, unbound.property, around]
    rw [Resolver.keyPath?, resolved, Option.bind_some, given]
  simp only [content, explicitPath?, unbound.property, nothing, bound, if_true]

end TextElement

/-! ### Layout -/

namespace Resolver

variable {r : Resolver} {node : Node} {path : String}

theorem given?_binding (key : StyleKey) : r.given? (node.binding path) key =
    if key = .property then (Attribute.keyPath path).toOption.map .keyPath else none := by
  rw [given?, Node.attr?_binding]
  by_cases property : key = .property
  · subst property
    exact r.read_property path
  · rw [if_neg (StyleKey.name_ne_property property), if_neg property]
    rfl

end Resolver

namespace Setting

variable {s : Setting} (data : Json) {node : Node} (path : String)

/-- The site of an element inside a group that gives a binding. -/
def boundSite (s : Setting) (path : String) (node : Node) (st : LayoutState) : Site :=
  let site := s.site st
  site.restyled (site.styles.cascade.pushAll (site.styles.declared (node.binding path)))

theorem walk_text (builtin : s.renderers = .builtin) (name : node.name = "Text")
    (st : LayoutState) :
    (s.walk data node st).2.items =
      st.items ++ (TextElement.outcome .own node data (s.site st)).items := by
  have kind : node.kind = .text .own := by rw [Node.kind, name]; rfl
  rw [walk_items s data [] node st, visits_builtin data builtin, kind]
  simp [ElementKind.descends, itemsAt_builtin data builtin, kind, ElementKind.outcome]

/-- A group leaves what the text element in it leaves, in the styles of the group. -/
theorem walk_binding (builtin : s.renderers = .builtin) (name : node.name = "Text")
    (st : LayoutState) :
    (s.walk data (node.binding path) st).2.items =
      st.items ++ (TextElement.outcome .own node data (s.boundSite path node st)).items := by
  have opened : s.site (s.opened data (node.binding path) st) = s.boundSite path node st := rfl
  have before : (s.opened data (node.binding path) st).items = st.items := List.append_nil _
  have inside := walk_text data builtin name (s.opened data (node.binding path) st)
  rw [opened, before, ← walkAll_singleton] at inside
  rw [walk_builtin data builtin]
  exact (LayoutState.consume_items _ _).trans inside

theorem top?_boundSite (path : String) (node : Node) (st : LayoutState) (key : StyleKey) :
    (s.boundSite path node st).styles.cascade.top? key =
      ((s.site st).styles.given? (node.binding path) key).or (st.cascade.top? key) :=
  Resolver.top?_pushAll_declared _ _ _ key

/-- A path that can be cascaded counts inside the group as it does on the element. -/
theorem outcome_boundSite (unbound : node.IsUnbound)
    (is : Text.IsWord (Text.trimBy Attribute.isSpace path.toList)) (st : LayoutState) :
    TextElement.outcome .own node data (s.boundSite path node st) =
      TextElement.outcome .own (node.bound path) data (s.site st) := by
  have attrs : ∀ name, name ≠ "Property" → node.attr? name = (node.bound path).attr? name :=
    fun _ other => (Node.attr?_bound_other path other).symm
  have read : Attribute.keyPath path = .ok (Text.trim path) :=
    Attribute.keyPath_eq_ok.mpr ⟨is, congrArg String.ofList (Attribute.trimBy_of_word is)⟩
  refine outcome_alike attrs (fun key other => ?_) ?_
  · have silent : (s.site st).styles.given? (node.binding path) key = none := by
      rw [Resolver.given?_binding, if_neg other]
    exact (s.top?_boundSite path node st key).trans (by rw [silent]; rfl)
  · have top := s.top?_boundSite path node st .property
    rw [Resolver.given?_binding, if_pos rfl, read] at top
    have inherited : (s.boundSite path node st).styles.inherited? .property =
        some (.keyPath (Text.trim path)) := by
      rw [Resolver.inherited?, top]
      rfl
    rw [TextElement.content_bound]
    exact (TextElement.content_unbound unbound inherited rfl).trans
      (TextElement.showBound_alike attrs _)

/-- A path that cannot be cascaded makes the group a bare one. -/
theorem transparent_binding
    (malformed : ¬Text.IsWord (Text.trimBy Attribute.isSpace path.toList)) (node : Node) :
    s.Transparent (node.binding path) := by
  refine .inr ⟨.inl rfl, fun key => ?_⟩
  rw [Resolver.given?_binding]
  cases read : Attribute.keyPath path with
  | error e => simp [Except.toOption]
  | ok p => exact absurd (Attribute.keyPath_eq_ok.mp read).1 malformed

end Setting

/-- What a text element leaves shows its content, if that may be placed. -/
theorem TextElement.outcome_texts (source : TextSource) (node : Node) (data : Json) (site : Site) :
    (outcome source node data site).items.map (·.content.text?) =
      ([cleanedContent source node data site].filter site.services.valid).map some := by
  simp only [outcome]
  cases valid : site.services.valid (cleanedContent source node data site) with
  | false => simp [valid, Outcome.nothing]
  | true =>
      simp only [valid, Bool.not_true, Bool.false_eq_true, if_false, List.filter_cons, if_true]
      split <;> simp only [Outcome.ofItem, List.map_cons, Item.fitHeight_text?] <;> rfl

/-- A text that is shown in a format. -/
def Node.rounded : Node :=
  ⟨"Text", ⟨[("Format", "0.0"), ("Trim", "no")], by decide⟩, [], " "⟩

namespace Builder

variable (b : Builder) (data : Json) {node : Node} (path : String)

/-- The text that an element shows of what a key path names, if it may be placed. -/
def boundTexts (node : Node) : List String :=
  let shown := TextElement.showBound node data (b.toSetting.site b.toLayoutState) path
  [Text.cleanContent shown (Resolver.flag node "Trim" true)].filter b.services.valid

theorem layout_text (builtin : b.renderers = .builtin) (name : node.name = "Text") :
    (b.layout node data).1 =
      .ok (TextElement.outcome .own node data (b.toSetting.site b.toLayoutState)).items := by
  rw [layout_advanced data builtin, advanced, b.toSetting.walk_text data builtin name,
    List.drop_left]

theorem layout_binding (builtin : b.renderers = .builtin) (name : node.name = "Text") :
    (b.layout (node.binding path) data).1 =
      .ok (TextElement.outcome .own node data
        (b.toSetting.boundSite path node b.toLayoutState)).items := by
  rw [layout_advanced data builtin, advanced, b.toSetting.walk_binding data path builtin name,
    List.drop_left]

/-- A text element shows what its binding names, whether the binding stands on it or on a group
    around it: the same items are laid out, with the same content. The binding around it has to be
    a key path without blanks, with nothing but space in front and behind; if there is a blank in it
    the group gives nothing, and the element is laid out as if it stood alone. -/
theorem layout_bound (builtin : b.renderers = .builtin) (unbound : node.IsUnbound) :
    (Text.IsWord (Text.trimBy Attribute.isSpace path.toList) →
      ∃ items, (b.layout (node.bound path) data).1 = .ok items ∧
        (b.layout (node.binding path) data).1 = .ok items ∧
        items.map (·.content.text?) = (b.boundTexts data (Text.trim path) node).map some) ∧
    (¬Text.IsWord (Text.trimBy Text.isBlank path.toList) →
      b.layout (node.binding path) data = b.layout node data) := by
  constructor
  · intro is
    have same := b.toSetting.outcome_boundSite data path unbound is b.toLayoutState
    refine ⟨_, b.layout_text data builtin unbound.name, ?_, ?_⟩
    · rw [b.layout_binding data path builtin unbound.name, same]
    · have attrs : ∀ name, name ≠ "Property" → (node.bound path).attr? name = node.attr? name :=
        fun _ => Node.attr?_bound_other path
      let site := b.toSetting.site b.toLayoutState
      have shown : TextElement.showBound (node.bound path) data
          (site.restyled site.styles.cascade) (Text.trim path) =
            TextElement.showBound node data site (Text.trim path) :=
        TextElement.showBound_alike attrs (Text.trim path)
      have flag : Resolver.flag (node.bound path) "Trim" true = Resolver.flag node "Trim" true := by
        simp only [Resolver.flag, attrs "Trim" (by decide)]
      rw [TextElement.outcome_texts, TextElement.cleanedContent, TextElement.content_bound, flag]
      exact congrArg (fun text => List.map some
        ([Text.cleanContent text (Resolver.flag node "Trim" true)].filter b.services.valid)) shown
  · intro blank
    have malformed : ¬Text.IsWord (Text.trimBy Attribute.isSpace path.toList) := fun is =>
      blank (by rwa [Attribute.trimBy_of_word is])
    have transparent := b.toSetting.transparent_binding path malformed node
    rw [layout_advanced data builtin, layout_advanced data builtin,
      b.toSetting.walk_transparent data builtin transparent]
    exact congrArg (fun walk => b.advanced walk.2) (b.toSetting.walkAll_singleton data node _)

/-- The contents of the texts that a layout gives, if it gives any. -/
def contents? (b : Builder) (map : Node) (data : Json) : Option (List (Option String)) :=
  (b.layout map data).1.toOption.map fun items => items.map (·.content.text?)

/-- A path with a blank in it names a member when it stands on the element, and nothing when it
    stands on a group. -/
theorem layout_bound_blank :
    let b := Builder.new .default .default
    let data : Json := .object [("first name", .string "Ada")]
    b.contents? ((Node.bare "Text").bound "first name") data = some [some "Ada"] ∧
      b.contents? ((Node.bare "Text").binding "first name") data = some [some ""] := by
  decide +kernel

theorem layout_bound_rounded :
    let b := Builder.new .default .default
    let data : Json := .object [("total", .array [.string "2.25 "])]
    Node.rounded.IsUnbound ∧
    Text.IsWord (Text.trimBy Attribute.isSpace "\ttotal[0] ".toList) ∧
    (∃ items, (b.layout (Node.rounded.bound "\ttotal[0] ") data).1 = .ok items ∧
      (b.layout (Node.rounded.binding "\ttotal[0] ") data).1 = .ok items ∧
      items.map (·.content.text?) = [some "2.3"]) ∧
    ¬Text.IsWord (Text.trimBy Text.isBlank "total 0".toList) ∧
    b.layout (Node.rounded.binding "total 0") data = b.layout Node.rounded data := by
  intro b data
  have unbound : Node.rounded.IsUnbound := ⟨rfl, rfl, rfl, rfl⟩
  have word : Text.IsWord (Text.trimBy Attribute.isSpace "\ttotal[0] ".toList) := by
    have solid : ("total[0]".toList.all fun c => !Text.isBlank c) = true := rfl
    exact ⟨by decide, fun c member => by simpa using List.all_eq_true.mp solid c member⟩
  have blank : ¬Text.IsWord (Text.trimBy Text.isBlank "total 0".toList) :=
    fun is => absurd (is.solid ' ' (by decide)) (by decide)
  obtain ⟨items, own, around, shown⟩ := (layout_bound b data "\ttotal[0] " rfl unbound).1 word
  have text : b.boundTexts data (Text.trim "\ttotal[0] ") Node.rounded = ["2.3"] := by
    decide +kernel
  rw [text] at shown
  exact ⟨unbound, word, ⟨items, own, around, shown⟩, blank,
    (layout_bound b data "total 0" rfl unbound).2 blank⟩

end Builder

end PageMap
