import PageMap.Proofs.Crash
import PageMap.Proofs.History
/-! # Values and their kinds

The kind of a style key prescribes the variant of its values. Values come from the attributes of
elements, from constants and from calls from outside, but they are all read by their key, so that no
stack ever holds a value of another variant. What a text or a frame shows is then what was resolved:
no value is passed over for a default. Only a font weight can crash instead of being read or
refused. The main statement is `Builder.run_wellTyped`.
-/

namespace PageMap

/-- The value is of the variant that a kind prescribes. -/
def StyleValue.isOf : StyleValue → ValueKind → Bool
  | .length _, .length _ | .angle _, .angle | .color _, .color
  | .horizontalAlignment _, .horizontalAlignment | .verticalAlignment _, .verticalAlignment
  | .wrapping _, .wrapping | .fontFamily _, .fontFamily | .fontStretch _, .fontStretch
  | .fontStyle _, .fontStyle | .fontWeight _, .fontWeight | .keyPath _, .keyPath => true
  | _, _ => false

/-- All values on the stack of a key are of its kind. -/
def Cascade.Typed (c : Cascade) : Prop :=
  ∀ key, ∀ value ∈ c.stack key, value.isOf key.kind = true

/-- The value of a key as it shows in the text style or the frame of an element, or in one of its
    lengths, colors or paths. -/
def Site.shown? (site : Site) (node : Node) (container : Rect) (key : StyleKey) :
    Option StyleValue :=
  let style := site.styles.textStyle node
  let frame := site.frame node container
  match key with
  | .yIncrement | .ySpacing | .borderThickness => some (.length (site.styles.length key node))
  | .rotation => some (.angle frame.rotation)
  | .borderBrush => (site.styles.color? key node).map .color
  | .borderBackground => frame.background.map .color
  | .textPadding => some (.length frame.padding)
  | .textAlignment => some (.horizontalAlignment style.alignment)
  | .textVerticalAlignment => some (.verticalAlignment style.verticalAlignment)
  | .textWrapping => some (.wrapping style.wrapping)
  | .fontFamily => some (.fontFamily style.family)
  | .fontSize => some (.length style.size)
  | .fontStretch => some (.fontStretch style.stretch)
  | .fontStyle => some (.fontStyle style.style)
  | .fontWeight => some (.fontWeight style.weight)
  | .lineHeight => style.lineHeight.map .length
  | .foreground => some (.color style.foreground)
  | .property => (site.styles.keyPath? node).map .keyPath

/-- What an element sees of the styles is of the right kinds. -/
structure Site.WellTyped (site : Site) : Prop where
  cascade : site.styles.cascade.Typed
  resolved {key : StyleKey} {node : Node} {value : StyleValue} :
    site.styles.resolve? key node = some value → value.isOf key.kind = true
  unset {key : StyleKey} {node : Node} : site.styles.resolve? key node = none →
    key ∈ [StyleKey.borderBrush, .borderBackground, .lineHeight, .property]
  shown (key : StyleKey) (node : Node) (container : Rect) :
    site.shown? node container key = site.styles.resolve? key node

/-! ### Reading -/

/-- A value of a kind, or else an error that is given, unless reading crashes. -/
def ReadAs (kind : ValueKind) (invalid : InvalidValue) : Except StyleError StyleValue → Prop
  | .ok value => value.isOf kind = true
  | .error e => e = .invalid invalid ∨ e = .crash

namespace StyleKey

theorem isOf_default {key : StyleKey} {value : StyleValue} (given : key.default? = some value) :
    value.isOf key.kind = true := by
  cases key <;> cases given <;> rfl

theorem mem_of_default {key : StyleKey} (unset : key.default? = none) :
    key ∈ [borderBrush, borderBackground, lineHeight, property] := by
  cases key <;> simp [default?] at unset ⊢

theorem readAs_checked {α : Type} {kind : ValueKind} {variant : α → StyleValue}
    (typed : ∀ a, (variant a).isOf kind = true) (invalid : InvalidValue)
    (result : Except AttributeError α) :
    ReadAs kind invalid
      ((result.map variant).mapError fun e => if e = .crash then .crash else .invalid invalid) := by
  cases result with
  | ok a => exact typed a
  | error e =>
      cases e with
      | crash => exact .inr rfl
      | malformed | trailing _ _ => exact .inl rfl

/-- The text of a key is read as a value of its kind, or else refused under the name of the key,
    unless it crashes; `read_eq_crash` says when it does. -/
theorem read_readAs (key : StyleKey) (scales : Scales) (color : String → Option Color)
    (raw : String) : ReadAs key.kind ⟨key.name, raw⟩ (key.read scales color raw) := by
  cases kind : key.kind with
  | color =>
      simp only [read, kind]
      cases color (Text.trim raw) with
      | some c => rfl
      | none => exact .inl rfl
  | fontFamily =>
      simp only [read, kind]
      cases (Text.trim raw).isEmpty with
      | true => exact .inl rfl
      | false => rfl
  | _ =>
      simp only [read, kind]
      exact readAs_checked (fun _ => rfl) _ _

end StyleKey

namespace Resolver

variable {r : Resolver} {key : StyleKey} {value : StyleValue}

/-- The services only replace the name of a font family by another one. -/
theorem isOf_read {raw : String} (read : (r.read key raw).toOption = some value) :
    value.isOf key.kind = true := by
  have typed := key.read_readAs r.scales (r.services.color key) raw
  unfold Resolver.read at read
  split at read
  · rename_i name known
    rw [known] at typed
    split at read <;> cases read
    rename_i family _
    have renamed : (StyleValue.fontFamily family).isOf key.kind =
        (StyleValue.fontFamily name).isOf key.kind := by cases key.kind <;> rfl
    exact renamed.trans typed
  · cases result : key.read r.scales (r.services.color key) raw with
    | error e => rw [result] at read; cases read
    | ok own =>
        rw [result] at read typed
        cases read
        exact typed

theorem isOf_given {node : Node} (given : r.given? node key = some value) :
    value.isOf key.kind = true := by
  obtain ⟨raw, -, read⟩ := Option.bind_eq_some_iff.mp given
  exact isOf_read read

theorem isOf_declared {node : Node} :
    ∀ entry ∈ r.declared node, entry.2.isOf entry.1.kind = true := by
  intro ⟨key, value⟩ declared
  have own : value ∈ (r.declared node).filterMap fun entry =>
      if entry.1 = key then some entry.2 else none :=
    List.mem_filterMap.mpr ⟨(key, value), declared, if_pos rfl⟩
  rw [declared_of_key] at own
  exact isOf_given (Option.mem_toList.mp own)

theorem isOf_inherited (typed : r.cascade.Typed) (inherited : r.inherited? key = some value) :
    value.isOf key.kind = true := by
  unfold inherited? at inherited
  split at inherited
  · rename_i top found
    obtain rfl := Option.some.inj inherited
    rw [Cascade.top?_eq_head?] at found
    exact typed key _ (List.mem_of_mem_head? found)
  · rcases Option.or_eq_some_iff.mp inherited with constant | ⟨-, given⟩
    · obtain ⟨raw, -, read⟩ := Option.bind_eq_some_iff.mp constant
      exact isOf_read read
    · exact StyleKey.isOf_default given

theorem isOf_resolve (typed : r.cascade.Typed) {node : Node}
    (resolved : r.resolve? key node = some value) : value.isOf key.kind = true := by
  rw [resolve?_eq] at resolved
  split at resolved
  · rcases Option.or_eq_some_iff.mp resolved with own | ⟨-, given⟩
    · exact isOf_given own
    · exact StyleKey.isOf_default given
  · exact isOf_inherited typed resolved

theorem default_of_inherited (unset : r.inherited? key = none) : key.default? = none := by
  unfold inherited? at unset
  split at unset
  · cases unset
  · exact (Option.or_eq_none_iff.mp unset).2

theorem default_of_resolve {node : Node} (unset : r.resolve? key node = none) :
    key.default? = none := by
  rw [resolve?_eq] at unset
  split at unset
  · exact (Option.or_eq_none_iff.mp unset).2
  · exact default_of_inherited unset

end Resolver

/-! ### Stacks -/

namespace Cascade.Typed

theorem empty : Cascade.empty.Typed :=
  fun _ _ member => nomatch member

variable {c : Cascade} (typed : c.Typed)

include typed

theorem push {key : StyleKey} {value : StyleValue} (own : value.isOf key.kind = true) :
    (c.push key value).Typed := by
  intro other value' member
  rw [stack_push] at member
  split at member
  · rename_i same
    subst same
    rcases List.mem_cons.mp member with rfl | below
    · exact own
    · exact typed key value' below
  · exact typed other value' member

theorem pop (key : StyleKey) : (c.pop key).Typed := by
  intro other value member
  rw [stack_pop] at member
  split at member
  · exact typed other value (List.mem_of_mem_tail member)
  · exact typed other value member

theorem pushAll {pushes : List (StyleKey × StyleValue)}
    (own : ∀ entry ∈ pushes, entry.2.isOf entry.1.kind = true) : (c.pushAll pushes).Typed := by
  intro key value member
  rw [stack_pushAll, List.mem_append, List.mem_reverse] at member
  rcases member with pushed | below
  · obtain ⟨entry, given, same⟩ := List.mem_filterMap.mp pushed
    split at same <;> cases same
    rename_i same
    exact same ▸ own entry given
  · exact typed key value below

end Cascade.Typed

/-! ### Sites -/

theorem Site.wellTyped {site : Site} (typed : site.styles.cascade.Typed) : site.WellTyped where
  cascade := typed
  resolved := Resolver.isOf_resolve typed
  unset unset := StyleKey.mem_of_default (Resolver.default_of_resolve unset)
  shown key node container := by
    cases resolved : site.styles.resolve? key node with
    | none =>
        have unset := StyleKey.mem_of_default (Resolver.default_of_resolve resolved)
        simp only [List.mem_cons, List.not_mem_nil, or_false] at unset
        rcases unset with rfl | rfl | rfl | rfl <;>
          simp [shown?, frame, Resolver.textStyle, Resolver.color?, Resolver.keyPath?, resolved]
    | some value =>
        have own := Resolver.isOf_resolve typed resolved
        -- the accessor of a key takes the one variant that is left
        cases key <;> cases value <;> cases own <;>
          simp [shown?, frame, Resolver.textStyle, Resolver.horizontal, Resolver.vertical,
            Resolver.length, Resolver.color?, Resolver.keyPath?, resolved, StyleValue.length?,
            StyleValue.angle?, StyleValue.color?, StyleValue.horizontalAlignment?,
            StyleValue.verticalAlignment?, StyleValue.wrapping?, StyleValue.fontStretch?,
            StyleValue.fontStyle?, StyleValue.fontWeight?, StyleValue.text?]

/-! ### Histories -/

/-- What an element gives to its children is of the right kinds, and it is taken back after them. -/
theorem Setting.maintained_typed {s : Setting} {data : Json} (builtin : s.renderers = .builtin) :
    s.Maintained data fun _ st => st.cascade.Typed where
  enter {around node st outcome} rendered _ typed := by
    obtain rfl := outcome_of_render data builtin rendered
    refine typed.pushAll fun entry given => ?_
    rw [ElementKind.outcome_pushes] at given
    split at given
    · exact Resolver.isOf_declared entry given
    · cases given
  next {here around node st after} walked typed := by
    have kept := (s.walk_kept data node st).cascade
    rw [walked] at kept
    exact kept ▸ typed

namespace Builder

/-- What every call of a builder preserves. -/
structure Typed (b : Builder) : Prop where
  builtin : b.renderers = .builtin
  cascade : b.cascade.Typed

theorem Typed.perform {b : Builder} (typed : b.Typed) (call : BuilderCall) :
    (b.perform call).Typed := by
  have cascade := typed.cascade
  cases call with
  | push name raw =>
      rcases b.perform_push name raw with same | ⟨key, value, read, pushed⟩
      · rwa [same]
      · rw [pushed]
        exact ⟨typed.builtin, cascade.push (Resolver.isOf_read read)⟩
  | pop name =>
      rcases b.perform_pop name with same | ⟨key, popped⟩
      · rwa [same]
      · rw [popped]
        exact ⟨typed.builtin, cascade.pop key⟩
  | layout map data =>
      have kept := (b.toSetting.walk_kept data map b.toLayoutState).cascade
      exact ⟨typed.builtin, kept ▸ cascade⟩
  | reset => exact ⟨typed.builtin, .empty⟩
  | load | addText | addImage | draw => exact ⟨typed.builtin, cascade⟩

theorem push_eq (b : Builder) (key : StyleKey) (raw : String) : b.push key.name raw =
    ((b.resolver.read key raw).mapError .ofStyle).map fun value =>
      { b with cascade := b.cascade.push key value } := by
  have named : readKey key.name = .ok key := by cases key <;> rfl
  rw [push, named]
  change (b.resolver.read key raw).mapError LayoutError.ofStyle >>= _ = _
  cases b.resolver.read key raw <;> rfl

/-- Of all that can be pushed only a font weight crashes. -/
theorem push_eq_crash {b : Builder} {name raw : String} : b.push name raw = .error .crash ↔
    name = StyleKey.fontWeight.name ∧ Attribute.SplitsWeight raw := by
  cases found : StyleKey.ofName? name with
  | none =>
      have other : name ≠ StyleKey.fontWeight.name := fun same => by
        simp [StyleKey.ofName?_eq_some.mpr same] at found
      have unknown : b.push name raw = .error (.unknownStyleKey name) := by
        rw [push, readKey, found]
        rfl
      simp [unknown, other]
  | some key =>
      obtain rfl := StyleKey.ofName?_eq_some.mp found
      have named : key.name = StyleKey.fontWeight.name ↔ key = .fontWeight := by
        cases key <;> decide
      rw [push_eq, Attribute.map_eq_error, LayoutError.ofStyle_eq_crash, named,
        b.resolver.read_eq_crash]

/-- Whatever calls a new builder has gone through, the values on the stack of a key are of its kind.
    So is every value that an element resolves, laid out by the builder or standing outside of all
    containers: only a brush, a background, a line height or a path can be unset, and what shows is
    what was resolved. A text that is read for a key gives a value of its kind or an error with the
    name of the key and that text. There is one exception: reading a font weight crashes if the text
    splits the name of one, and so does resolving the font weight of an element where that text is
    the one to be read. -/
theorem run_wellTyped (config : LayoutConfig) (services : Services) (calls : List BuilderCall) :
    let b := (new config services).run calls
    b.cascade.Typed ∧
    (∀ site : Site, site.styles = b.resolver → site.WellTyped) ∧
    (∀ map data, ∀ v ∈ b.visits map data, (b.toSetting.site v.state).WellTyped) ∧
    (∀ (key : StyleKey) (scales : Scales) (color : String → Option Color) (raw : String),
      ReadAs key.kind ⟨key.name, raw⟩ (key.read scales color raw) ∧
      (key.read scales color raw = .error .crash ↔
        key = .fontWeight ∧ Attribute.SplitsWeight raw)) ∧
    ∀ (r : Resolver) (key : StyleKey) (node : Node), r.crashes key node = true ↔
      key = .fontWeight ∧ ∃ raw, r.source? key node = some raw ∧ Attribute.SplitsWeight raw := by
  intro b
  have typed : b.Typed :=
    run_invariant (fun call _ _ typed => typed.perform call) ⟨rfl, .empty⟩
  refine ⟨typed.cascade, fun site styles => ?_, fun map data v visited => ?_,
    fun key scales color raw => ⟨key.read_readAs scales color raw, StyleKey.read_eq_crash scales color⟩,
    fun _ _ _ => Resolver.crashes_iff⟩
  · have cascade : site.styles.cascade = b.cascade := congrArg Resolver.cascade styles
    exact Site.wellTyped (cascade ▸ typed.cascade)
  · exact Site.wellTyped (Setting.visits_invariant (Setting.maintained_typed typed.builtin) [] map
      b.toLayoutState typed.cascade v visited)

/-- A size and an unknown color are pushed, and a constant gives a padding to three texts. -/
def restyling : List BuilderCall :=
  [.push "FontSize" "9pt", .push "Foreground" "no such color",
    .load ⟨"Constants", .empty, [⟨"TextPadding", .empty, [], "2"⟩], ""⟩, .layout .threeTexts .null]

theorem run_wellTyped_restyling :
    let b := (new .default .default).run restyling
    b.cascade.size = 1 ∧ b.bareSite.WellTyped ∧
      ∃ v ∈ b.visits .threeTexts .null, v.node.text = "third" ∧
        (b.toSetting.site v.state).WellTyped := by
  intro b
  obtain ⟨-, bare, visited, -⟩ := run_wellTyped .default .default restyling
  have third : ∃ v ∈ (b.visits .threeTexts .null)[4]?, v.node.text = "third" := by decide +kernel
  obtain ⟨v, visit, text⟩ := third
  have there := List.mem_of_getElem? visit
  exact ⟨by decide +kernel, bare _ rfl, v, there, text, visited _ _ v there⟩

/-- A Kelvin sign stands for the last letter of `black`. The text is neither read nor refused. -/
theorem fontWeight_read_crashes :
    StyleKey.fontWeight.read .default (fun _ => none) "blac\u212a" = .error .crash ∧
    (new .default .default).push "FontWeight" "blac\u212a" = .error .crash ∧
    (new .default .default).resolver.crashes .fontWeight
      ⟨"Text", ⟨[("FontWeight", "blac\u212a")], by decide⟩, [], "a"⟩ = true := by
  have splits : Attribute.SplitsWeight "blac\u212a" := by decide +kernel
  refine ⟨(StyleKey.read_eq_crash _ _).mpr ⟨rfl, splits⟩, push_eq_crash.mpr ⟨rfl, splits⟩, ?_⟩
  exact Resolver.crashes_iff.mpr ⟨rfl, "blac\u212a", by decide, splits⟩

end Builder

end PageMap
