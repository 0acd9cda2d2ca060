import PageMap.Proofs.Attribute.Numeral
import PageMap.Proofs.LexicalScope
/-! # Where a layout crashes

Of all texts that layout reads, only that of a font weight can crash it: one that splits the name of
a weight. An element reads one such text at most, its `weightText?`, so a layout comes to its end
unless it visits an element whose text splits. The main statement is `Builder.crashes_iff`. A map in
which no such text stands never crashes, whatever the data: `Builder.crashes_of_clear`. Outside of
a layout only a constant can crash a text: `Builder.addTextCrashes_iff`.
-/

namespace PageMap

/-! ### Reading -/

namespace Attribute

/-- A text begins with the name of a font weight in any case, except that a Kelvin sign stands for
    its last letter. Names that end with another letter cannot be split. -/
def SplitsWeight (raw : String) : Prop :=
  fontWeightWords.Splits (skipSpace raw.toList)

instance (raw : String) : Decidable (SplitsWeight raw) :=
  decidable_of_iff _ fontWeight_eq_crash

theorem keyword_ne_crash {α : Type} {words : Keywords α} (distinct : words.Distinct)
    (whole : ∀ entry ∈ words, 'k' ∉ entry.1.toList) (raw : String) :
    keyword words raw ≠ .error .crash :=
  fun crashed => Keywords.not_splits whole _ ((keyword_eq_crash distinct).mp crashed)

theorem keyPath_ne_crash (raw : String) : keyPath raw ≠ .error .crash :=
  fun crashed => plain_ne_crash _ _ (spaced_eq_error.mp (whole_eq_crash.mp crashed))

end Attribute

namespace StyleKey

variable {key : StyleKey} {raw : String}

theorem checked_eq_crash {α : Type} {result : Except AttributeError α} {variant : α → StyleValue}
    {invalid : InvalidValue} :
    ((result.map variant).mapError fun e => if e = .crash then .crash else .invalid invalid) =
      .error StyleError.crash ↔ result = .error .crash := by
  cases result with
  | ok a => exact iff_of_false nofun nofun
  | error e =>
      cases e with
      | crash => exact iff_of_true rfl rfl
      | malformed | trailing _ _ => exact iff_of_false nofun nofun

/-- Reading crashes for no key but the font weight. -/
theorem read_eq_crash (scales : Scales) (color : String → Option Color) :
    key.read scales color raw = .error .crash ↔ key = .fontWeight ∧ Attribute.SplitsWeight raw := by
  cases key <;> simp only [read, kind, checked_eq_crash]
  case fontWeight => simp [Attribute.fontWeight_eq_crash, Attribute.SplitsWeight]
  case yIncrement | ySpacing | fontSize | borderThickness | textPadding | lineHeight =>
    simp [Attribute.length_ne_crash]
  case rotation => simp [Attribute.angle_ne_crash]
  case borderBrush | borderBackground | foreground => split <;> simp
  case fontFamily => split <;> simp
  case property => simp [Attribute.keyPath_ne_crash]
  case textAlignment | textVerticalAlignment | textWrapping | fontStretch | fontStyle =>
    simpa using Attribute.keyword_ne_crash (by decide +kernel) (by decide) raw

end StyleKey

theorem LayoutError.ofStyle_eq_crash {α : Type} {result : Except StyleError α} :
    result.mapError LayoutError.ofStyle = .error .crash ↔ result = .error .crash := by
  cases result with
  | ok a => exact iff_of_false nofun nofun
  | error e =>
      cases e with
      | crash => exact iff_of_true rfl rfl
      | invalid cause => exact iff_of_false nofun nofun

namespace Resolver

variable {r : Resolver} {key : StyleKey}

/-- The services are asked after the text was read, and crash nothing. -/
theorem read_eq_crash {raw : String} :
    r.read key raw = .error .crash ↔ key = .fontWeight ∧ Attribute.SplitsWeight raw := by
  rw [← StyleKey.read_eq_crash r.scales (r.services.color key)]
  unfold Resolver.read
  split
  case h_1 family named =>
    rw [named]
    cases r.services.family key family <;> simp
  case h_2 => rfl

theorem readCrashes_iff {raw : String} :
    r.readCrashes key raw = true ↔ key = .fontWeight ∧ Attribute.SplitsWeight raw := by
  rw [← r.read_eq_crash, readCrashes]
  split <;> simp_all

theorem crashes_iff {node : Node} : r.crashes key node = true ↔
    key = .fontWeight ∧ ∃ raw, r.source? key node = some raw ∧ Attribute.SplitsWeight raw := by
  rw [crashes, Option.any_eq_true]
  simp only [readCrashes_iff]
  tauto

theorem declaredCrashes_iff {node : Node} : r.declaredCrashes node = true ↔
    ∃ raw, node.attr? StyleKey.fontWeight.name = some raw ∧ Attribute.SplitsWeight raw := by
  simp only [declaredCrashes, List.any_eq_true, Option.any_eq_true, readCrashes_iff, Node.attr?,
    Dictionary.get?_eq_some]
  constructor
  · rintro ⟨⟨name, raw⟩, given, key, named, rfl, splits⟩
    obtain rfl := StyleKey.ofName?_eq_some.mp named
    exact ⟨raw, given, splits⟩
  · rintro ⟨raw, given, splits⟩
    exact ⟨_, given, .fontWeight, rfl, rfl, splits⟩

theorem textStyleCrashes_iff {node : Node} : r.textStyleCrashes node = true ↔
    ∃ raw, r.source? .fontWeight node = some raw ∧ Attribute.SplitsWeight raw := by
  rw [textStyleCrashes, List.any_eq_true]
  simp [crashes_iff]

end Resolver

/-! ### Elements -/

/-- The text that an element reads its font weight from. Texts read it for their style, if they are
    placed, and elements that cascade read the one on them. -/
def ElementKind.weightText? (kind : ElementKind) (node : Node) (data : Json) (site : Site) :
    Option String :=
  match kind with
  | .text source =>
      if site.services.valid (TextElement.cleanedContent source node data site) then
        site.styles.source? .fontWeight node
      else none
  | .container | .scope => node.attr? StyleKey.fontWeight.name
  | .image | .constants | .unknown => none

/-- The text stands on the element, or it is a constant. -/
theorem ElementKind.weightText?_cases {kind : ElementKind} {node : Node} {data : Json} {site : Site}
    {raw : String} (read : kind.weightText? node data site = some raw) :
    node.attr? StyleKey.fontWeight.name = some raw ∨
      site.styles.constants.get? StyleKey.fontWeight.name = some raw := by
  cases kind with
  | text source =>
      simp only [weightText?, Resolver.source?] at read
      split at read
      · split at read
        · exact .inl (by simp_all)
        · split at read
          · cases read
          · exact .inr read
      · cases read
  | container | scope => exact .inl read
  | image | constants | unknown => cases read

theorem Renderers.builtin_crashes {node : Node} {data : Json} {site : Site} :
    builtin.crashes node data site = true ↔
      ∃ raw, node.kind.weightText? node data site = some raw ∧ Attribute.SplitsWeight raw := by
  have found : builtin.get? node.name = node.kind.renderer? := ElementKind.builtin_get? node.name
  rw [crashes, found]
  cases node.kind with
  | text source =>
      simp only [ElementKind.renderer?, Option.any_some, Renderer.text, TextElement.crashes,
        Bool.and_eq_true, Resolver.textStyleCrashes_iff, ElementKind.weightText?]
      split <;> simp_all
  | container | scope => exact Resolver.declaredCrashes_iff
  | image | constants | unknown => simp [ElementKind.renderer?, ElementKind.weightText?,
      Renderer.image, Renderer.constants]

/-! ### Walks -/

namespace Setting

section Steps

variable {s : Setting} {data : Json} {node : Node} {st : LayoutState} {outcome : Outcome}
  {e : LayoutError}

theorem crashes_refused (h : s.renderers.render node data (s.site st) = .error e) :
    s.crashes data node st = s.renderers.crashes node data (s.site st) := by
  obtain ⟨name, attributes, children, text⟩ := node
  simp only [crashes, h, Bool.or_false]

theorem crashes_entered (h : s.renderers.render node data (s.site st) = .ok outcome) :
    s.crashes data node st = (s.renderers.crashes node data (s.site st) ||
      outcome.visitsChildren && s.crashesAll data node.children (st.enter outcome)) := by
  obtain ⟨name, attributes, children, text⟩ := node
  simp only [crashes, h]

end Steps

section Builtin

variable {s : Setting} (data : Json) (builtin : s.renderers = .builtin)

include builtin

theorem crashes_builtin (node : Node) (st : LayoutState) : s.crashes data node st =
    (Renderers.builtin.crashes node data (s.site st) ||
      node.kind.descends && s.crashesAll data node.children (s.opened data node st)) := by
  rw [crashes_entered (render_builtin data builtin node st), builtin,
    ElementKind.outcome_visitsChildren]
  rfl

theorem crashesAll_cons (node : Node) (rest : List Node) (st : LayoutState) :
    s.crashesAll data (node :: rest) st =
      (s.crashes data node st || s.crashesAll data rest (s.walk data node st).2) := by
  have walked : s.walk data node st = (.ok (), (s.walk data node st).2) :=
    Prod.ext (walk_ok data builtin node st) rfl
  rw [crashesAll, walked]

end Builtin

variable (s : Setting) (data : Json)

/-- The element of a visit crashes. -/
def crashesAt (v : Visit) : Prop :=
  s.renderers.crashes v.node data (s.site v.state) = true

mutual

/-- A walk crashes where one of its visits does. -/
theorem crashes_visits (around : List Enclosing) (node : Node) (st : LayoutState) :
    s.crashes data node st = true ↔ ∃ v ∈ s.visits data around node st, s.crashesAt data v := by
  cases h : s.renderers.render node data (s.site st) with
  | error e =>
      rw [crashes_refused h, visits_refused h]
      simp only [List.mem_singleton, exists_eq_left, crashesAt]
  | ok outcome =>
      rw [crashes_entered h, visits_entered h, Bool.or_eq_true, Bool.and_eq_true]
      simp only [List.mem_cons, exists_eq_or_imp]
      refine or_congr Iff.rfl ?_
      cases outcome.visitsChildren with
      | false => simp
      | true =>
          simp only [true_and, if_true]
          exact crashesAll_visits ⟨node, st, []⟩ around node.children _
termination_by sizeOf node
decreasing_by exact node.sizeOf_children_lt

theorem crashesAll_visits (here : Enclosing) (around : List Enclosing) (nodes : List Node)
    (st : LayoutState) : s.crashesAll data nodes st = true ↔
      ∃ v ∈ s.visitsAll data here around nodes st, s.crashesAt data v := by
  cases nodes with
  | nil => simp [crashesAll, visitsAll]
  | cons node rest =>
      rw [crashesAll, visitsAll, Bool.or_eq_true, crashes_visits (here :: around) node st]
      simp only [List.mem_append, or_and_right, exists_or]
      refine or_congr Iff.rfl ?_
      rcases s.walk data node st with ⟨e | ⟨⟩, after⟩
      · simp
      · exact crashesAll_visits (here.finish node st) around rest after
termination_by sizeOf nodes

end

end Setting

/-- Neither on an element of a map that is laid out nor as a constant does a text stand that splits
    the name of a font weight. -/
structure Node.Clear (map : Node) : Prop where
  given : ∀ node ∈ map.reached, ∀ raw ∈ node.attr? StyleKey.fontWeight.name,
    ¬Attribute.SplitsWeight raw
  defined : ∀ entry ∈ map.definitions, entry.1 = StyleKey.fontWeight.name →
    ¬Attribute.SplitsWeight entry.2

instance (map : Node) : Decidable map.Clear :=
  decidable_of_iff (_ ∧ _) ⟨fun ⟨given, defined⟩ => ⟨given, defined⟩,
    fun ⟨given, defined⟩ => ⟨given, defined⟩⟩

namespace Builder

/-- Laying a map out visits an element that reads its font weight from a text that splits. -/
def MeetsSplit (b : Builder) (map : Node) (data : Json) : Prop :=
  ∃ v ∈ b.visits map data, ∃ raw,
    v.node.kind.weightText? v.node data (b.toSetting.site v.state) = some raw ∧
      Attribute.SplitsWeight raw

/-- A text that is appended reads its font weight from a constant, if none is in effect. -/
theorem addTextCrashes_iff {b : Builder} : b.addTextCrashes = true ↔
    b.cascade.top? .fontWeight = none ∧ ∃ raw,
      b.constants.get? StyleKey.fontWeight.name = some raw ∧ Attribute.SplitsWeight raw := by
  have bare : b.bareSite.styles.source? .fontWeight (.bare "Text") =
      if (b.cascade.top? .fontWeight).isSome then none
      else b.constants.get? StyleKey.fontWeight.name := rfl
  rw [addTextCrashes, Resolver.textStyleCrashes_iff, bare]
  cases b.cascade.top? .fontWeight <;> simp

variable {b : Builder} (builtin : b.renderers = .builtin) (map : Node) (data : Json)

include builtin

/-- With the built-in renderers a layout crashes in no other way. -/
theorem crashes_iff : b.crashes map data = true ↔ b.MeetsSplit map data := by
  rw [crashes, b.toSetting.crashes_visits data [] map b.toLayoutState]
  simp only [Setting.crashesAt, builtin, Renderers.builtin_crashes]
  rfl

/-- A clear map does not crash, whatever the data, if the constants of before are clear as well. -/
theorem crashes_of_clear (clear : map.Clear)
    (before : ∀ raw, b.constants.get? StyleKey.fontWeight.name = some raw →
      ¬Attribute.SplitsWeight raw) : b.crashes map data = false := by
  refine Bool.eq_false_iff.mpr fun crashed => ?_
  obtain ⟨v, visited, raw, read, splits⟩ := (crashes_iff builtin map data).mp crashed
  have reached : v.node ∈ map.reached := by
    rw [← Setting.visits_reached data builtin [] map b.toLayoutState]
    exact List.mem_map_of_mem visited
  rcases ElementKind.weightText?_cases read with given | constant
  · exact clear.given v.node reached raw given splits
  · obtain ⟨i, here⟩ := List.mem_iff_getElem?.mp visited
    have constants := Setting.visits_constants data builtin [] map b.toLayoutState i v here
    have found : v.state.constants.get? StyleKey.fontWeight.name = some raw := constant
    rw [constants] at found
    rcases Dictionary.mem_of_get?_insertAll _ found with defined | there
    · refine clear.defined (_, raw) ?_ rfl splits
      -- what was defined before the visit is a part of what the map defines
      rw [← Setting.visits_definitions data builtin [] map b.toLayoutState]
      exact ((List.take_sublist i _).flatMap _).subset defined
    · exact before raw there splits

end Builder

end PageMap
