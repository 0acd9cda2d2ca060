import PageMap.Proofs.Crash
/-! # Elements that can be spliced out

Some elements do nothing but lay out their children: those without a renderer, and scopes that give
no value. Such an element can be replaced by its children wherever it stands. As it leaves no trace
in the state of a walk, neither the elements after it nor those around it can tell the difference.
The main statement is `Builder.layout_spliced`.

A scope that gives no value may all the same have a font weight on it that crashes. Then its layout
does not come to an end, and that of its children may. `Setting.Traceless` leaves such scopes out.
-/

namespace PageMap

/-- An element that only lays out its children. What else stands on it, such as a position or a
    value that cannot be read, is of no account. -/
def Setting.Transparent (s : Setting) (node : Node) : Prop :=
  s.renderers.get? node.name = none ∨
    (node.name = "Group" ∨ node.name = "Style") ∧ ∀ key, s.blank.given? node key = none

/-- A transparent element that does not crash by itself. -/
def Setting.Traceless (s : Setting) (node : Node) : Prop :=
  s.Transparent node ∧ (node.kind = .scope →
    ∀ raw, node.attr? StyleKey.fontWeight.name = some raw → ¬Attribute.SplitsWeight raw)

/-- The second tree is the first one with an element below the root replaced by its children. The
    children of a constants element are not elements to be laid out, so none of them is replaced. -/
inductive Node.Spliced (transparent : Node → Prop) : Node → Node → Prop where
  | child {parent node : Node} {before after : List Node} :
      parent.name ≠ "Constants" → transparent node →
      Spliced transparent { parent with children := before ++ node :: after }
        { parent with children := before ++ node.children ++ after }
  | inside {parent inner inner' : Node} {before after : List Node} :
      Spliced transparent inner inner' →
      Spliced transparent { parent with children := before ++ inner :: after }
        { parent with children := before ++ inner' :: after }

theorem Node.Spliced.imp {transparent transparent' : Node → Prop} {node node' : Node}
    (weaker : ∀ n, transparent n → transparent' n) (spliced : Node.Spliced transparent node node') :
    Node.Spliced transparent' node node' := by
  induction spliced with
  | child laid passes => exact .child laid (weaker _ passes)
  | inside _ ih => exact .inside ih

/-- Lays out maps one after the other, up to the first that is refused. -/
def Builder.layoutEach (b : Builder) (data : Json) :
    List Node → Except LayoutError (List Item) × Builder
  | [] => (.ok [], b)
  | map :: rest =>
      match b.layout map data with
      | (.error e, b) => (.error e, b)
      | (.ok items, b) =>
          let (others, b) := b.layoutEach data rest
          (others.map (items ++ ·), b)

/-- Laying maps out one after the other crashes. -/
def Builder.crashesEach (b : Builder) (data : Json) : List Node → Bool
  | [] => false
  | map :: rest => b.crashes map data ||
      match b.layout map data with
      | (.error _, _) => false
      | (.ok _, b) => b.crashesEach data rest

/-! ### Transparent elements -/

theorem Resolver.declared_eq_nil {r : Resolver} {node : Node}
    (silent : ∀ key, r.given? node key = none) : r.declared node = [] := by
  refine List.eq_nil_iff_forall_not_mem.mpr fun ⟨key, value⟩ declared => ?_
  have found : value ∈ (r.declared node).filterMap fun entry =>
      if entry.1 = key then some entry.2 else none :=
    List.mem_filterMap.mpr ⟨(key, value), declared, if_pos rfl⟩
  rw [declared_of_key, silent key] at found
  cases found

namespace LayoutState

theorem enter_passThrough (st : LayoutState) : st.enter .passThrough = st := by
  simp only [enter, Outcome.passThrough, List.append_nil]
  rfl

theorem leave_passThrough (st : LayoutState) : st.leave .passThrough = st :=
  rfl

end LayoutState

namespace Setting

variable {s : Setting} (data : Json)

theorem walk_passThrough {node : Node} {st : LayoutState}
    (passes : s.renderers.render node data (s.site st) = .ok .passThrough) :
    s.walk data node st = s.walkAll data node.children st := by
  have inside : s.walkInside data .passThrough node.children st =
      s.walkAll data node.children st := by
    rw [walkInside, LayoutState.enter_passThrough]
    rfl
  rcases walked : s.walkAll data node.children st with ⟨e | ⟨⟩, after⟩ <;> rw [walked] at inside
  · rw [walk_refusedInside passes inside, LayoutState.leave_passThrough]
  · rw [walk_done passes inside, LayoutState.leave_passThrough]
    rfl

theorem Transparent.kind (builtin : s.renderers = .builtin) {node : Node}
    (transparent : s.Transparent node) :
    node.kind = .unknown ∨ node.kind = .scope ∧ ∀ key, s.blank.given? node key = none := by
  rcases transparent with unregistered | ⟨scope, silent⟩
  · rw [builtin, ElementKind.builtin_get?, ElementKind.renderer?_eq_none] at unregistered
    exact .inl unregistered
  · refine .inr ⟨?_, silent⟩
    rcases scope with name | name <;> rw [Node.kind, name] <;> rfl

theorem Transparent.outcome (builtin : s.renderers = .builtin) {node : Node}
    (transparent : s.Transparent node) (st : LayoutState) :
    node.kind.outcome node data (s.site st) = .passThrough := by
  rcases transparent.kind builtin with unknown | ⟨scope, silent⟩
  · rw [unknown, ElementKind.outcome]
  · have nothing : (s.site st).styles.declared node = [] := Resolver.declared_eq_nil silent
    rw [scope, ElementKind.outcome, nothing]
    rfl

theorem walk_transparent (builtin : s.renderers = .builtin) {node : Node}
    (transparent : s.Transparent node) (st : LayoutState) :
    s.walk data node st = s.walkAll data node.children st := by
  refine walk_passThrough data ?_
  rw [render_builtin data builtin, transparent.outcome data builtin]

theorem crashes_traceless (builtin : s.renderers = .builtin) {node : Node}
    (traceless : s.Traceless node) (st : LayoutState) :
    s.crashes data node st = s.crashesAll data node.children st := by
  obtain ⟨transparent, readable⟩ := traceless
  have kinds := transparent.kind builtin
  have own : Renderers.builtin.crashes node data (s.site st) = false := by
    refine Bool.eq_false_iff.mpr fun crashed => ?_
    obtain ⟨raw, read, splits⟩ := Renderers.builtin_crashes.mp crashed
    rcases kinds with unknown | ⟨scope, -⟩
    · rw [unknown] at read
      cases read
    · rw [scope] at read
      exact readable scope raw read splits
  have descends : node.kind.descends = true := by
    rcases kinds with unknown | ⟨scope, -⟩
    · rw [unknown]
      rfl
    · rw [scope]
      rfl
  rw [crashes_builtin data builtin, own, descends, opened, transparent.outcome data builtin,
    LayoutState.enter_passThrough]
  rfl

/-! ### Trees around them -/

theorem walkAll_append (builtin : s.renderers = .builtin) (first second : List Node)
    (st : LayoutState) :
    s.walkAll data (first ++ second) st = s.walkAll data second (s.walkAll data first st).2 := by
  induction first generalizing st with
  | nil => rfl
  | cons node rest ih =>
      rw [List.cons_append, walkAll_cons data builtin, ih, walkAll_cons data builtin]

theorem walkAll_singleton (node : Node) (st : LayoutState) :
    s.walkAll data [node] st = s.walk data node st := by
  rcases walked : s.walk data node st with ⟨e | ⟨⟩, after⟩ <;> simp only [walkAll, walked]

theorem walkAll_middle (builtin : s.renderers = .builtin) {middle middle' : List Node}
    (same : ∀ st, s.walkAll data middle st = s.walkAll data middle' st)
    (before after : List Node) (st : LayoutState) :
    s.walkAll data (before ++ (middle ++ after)) st =
      s.walkAll data (before ++ (middle' ++ after)) st := by
  simp only [walkAll_append data builtin, same]

theorem crashesAll_append (builtin : s.renderers = .builtin) (first second : List Node)
    (st : LayoutState) : s.crashesAll data (first ++ second) st =
      (s.crashesAll data first st || s.crashesAll data second (s.walkAll data first st).2) := by
  induction first generalizing st with
  | nil => rfl
  | cons node rest ih =>
      rw [List.cons_append, crashesAll_cons data builtin, ih, crashesAll_cons data builtin,
        walkAll_cons data builtin, Bool.or_assoc]

theorem crashesAll_singleton (builtin : s.renderers = .builtin) (node : Node) (st : LayoutState) :
    s.crashesAll data [node] st = s.crashes data node st := by
  rw [crashesAll_cons data builtin, crashesAll, Bool.or_false]

theorem crashesAll_middle (builtin : s.renderers = .builtin) {middle middle' : List Node}
    (walks : ∀ st, s.walkAll data middle st = s.walkAll data middle' st)
    (same : ∀ st, s.crashesAll data middle st = s.crashesAll data middle' st)
    (before after : List Node) (st : LayoutState) :
    s.crashesAll data (before ++ (middle ++ after)) st =
      s.crashesAll data (before ++ (middle' ++ after)) st := by
  simp only [crashesAll_append data builtin, walks, same]

end Setting

/-- The children of an element count only if they are laid out, or if they are constants. -/
theorem ElementKind.outcome_children (kind : ElementKind) (data : Json) (site : Site) {node : Node}
    {children : List Node}
    (entries : kind = .constants →
      ConstantsElement.entries node = ConstantsElement.entries { node with children }) :
    kind.outcome node data site = kind.outcome { node with children } data site := by
  cases kind with
  | constants => rw [outcome, outcome, entries rfl]
  | text _ | image | container | scope | unknown => rfl

/-- What an element reads its font weight from does not depend on its children. -/
theorem Renderers.builtin_crashes_children (node : Node) (children : List Node) (data : Json)
    (site : Site) :
    builtin.crashes { node with children } data site = builtin.crashes node data site := by
  have found : builtin.get? node.name = node.kind.renderer? := ElementKind.builtin_get? node.name
  rw [crashes, crashes, found]
  cases node.kind <;> rfl

/-- Inside a tree the element of the root keeps its name, and its value if it is a constant. -/
theorem Node.Spliced.same_entry {transparent : Node → Prop} {node node' : Node}
    (spliced : Node.Spliced transparent node node') :
    (node.name, ConstantsElement.value node) = (node'.name, ConstantsElement.value node') := by
  cases spliced <;> rfl

namespace Setting

variable {s : Setting} (data : Json)

section Children

variable {node : Node} {children : List Node} {st : LayoutState}

theorem opened_children (entries : node.kind = .constants →
      ConstantsElement.entries node = ConstantsElement.entries { node with children }) :
    s.opened data node st = s.opened data { node with children } st :=
  congrArg st.enter (node.kind.outcome_children data (s.site st) entries)

theorem walk_children (builtin : s.renderers = .builtin)
    (entries : node.kind = .constants →
      ConstantsElement.entries node = ConstantsElement.entries { node with children })
    (inside : s.walkAll data node.children (s.opened data node st) =
      s.walkAll data children (s.opened data node st)) :
    s.walk data node st = s.walk data { node with children } st := by
  have outcome := node.kind.outcome_children data (s.site st) entries
  have filled : s.filled data node st = s.filled data { node with children } st := by
    simp only [Setting.filled, ← s.opened_children data entries, inside]
    rfl
  rw [walk_builtin data builtin, walk_builtin data builtin, filled]
  simp only [Node.kind] at outcome ⊢
  rw [outcome]
  rfl

end Children

/-- The walk of a tree stays the same when a transparent element in it is replaced, whatever the
    state is. -/
theorem walk_spliced (builtin : s.renderers = .builtin) {node node' : Node}
    (spliced : Node.Spliced s.Transparent node node') (st : LayoutState) :
    s.walk data node st = s.walk data node' st := by
  induction spliced generalizing st with
  | @child parent node before after laid transparent =>
      have same (st : LayoutState) : s.walkAll data [node] st = s.walkAll data node.children st :=
        (walkAll_singleton data node st).trans (walk_transparent data builtin transparent st)
      refine walk_children data builtin
        (fun kind => absurd (Node.kind_eq_constants.mp kind) laid) ?_
      rw [List.append_assoc]
      exact walkAll_middle data builtin same before after _
  | @inside parent inner inner' before after spliced ih =>
      have same (st : LayoutState) : s.walkAll data [inner] st = s.walkAll data [inner'] st := by
        rw [walkAll_singleton, walkAll_singleton, ih]
      refine walk_children data builtin (fun _ => ?_)
        (walkAll_middle data builtin same before after _)
      -- even a constants element gives the same constants: it does not look below its children
      simp only [ConstantsElement.entries, List.map_append, List.map_cons, spliced.same_entry]

theorem Traceless.transparent {node : Node} (traceless : s.Traceless node) : s.Transparent node :=
  traceless.1

/-- An element crashes as one with other children does if they crash alike. -/
theorem crashes_children (builtin : s.renderers = .builtin) {node : Node} {children : List Node}
    {st : LayoutState}
    (entries : node.kind = .constants →
      ConstantsElement.entries node = ConstantsElement.entries { node with children })
    (inside : s.crashesAll data node.children (s.opened data node st) =
      s.crashesAll data children (s.opened data node st)) :
    s.crashes data node st = s.crashes data { node with children } st := by
  rw [crashes_builtin data builtin, crashes_builtin data builtin, inside,
    Renderers.builtin_crashes_children, ← s.opened_children data entries]
  rfl

/-- Whether the walk of a tree crashes stays the same when a traceless element in it is replaced. -/
theorem crashes_spliced (builtin : s.renderers = .builtin) {node node' : Node}
    (spliced : Node.Spliced s.Traceless node node') (st : LayoutState) :
    s.crashes data node st = s.crashes data node' st := by
  induction spliced generalizing st with
  | @child parent node before after laid traceless =>
      have walks (st : LayoutState) : s.walkAll data [node] st = s.walkAll data node.children st :=
        (walkAll_singleton data node st).trans
          (walk_transparent data builtin traceless.transparent st)
      have same (st : LayoutState) :
          s.crashesAll data [node] st = s.crashesAll data node.children st :=
        (crashesAll_singleton data builtin node st).trans
          (crashes_traceless data builtin traceless st)
      refine crashes_children data builtin
        (fun kind => absurd (Node.kind_eq_constants.mp kind) laid) ?_
      rw [List.append_assoc]
      exact crashesAll_middle data builtin walks same before after _
  | @inside parent inner inner' before after spliced ih =>
      have walks (st : LayoutState) : s.walkAll data [inner] st = s.walkAll data [inner'] st := by
        rw [walkAll_singleton, walkAll_singleton,
          walk_spliced data builtin (spliced.imp fun _ => Traceless.transparent)]
      have same (st : LayoutState) :
          s.crashesAll data [inner] st = s.crashesAll data [inner'] st := by
        rw [crashesAll_singleton data builtin, crashesAll_singleton data builtin, ih]
      refine crashes_children data builtin (fun _ => ?_)
        (crashesAll_middle data builtin walks same before after _)
      simp only [ConstantsElement.entries, List.map_append, List.map_cons, spliced.same_entry]

end Setting

/-! ### Layout -/

namespace Builder

variable (b : Builder) (data : Json)

/-- The new items together with the builder that has gone on to a state. -/
def advanced (after : LayoutState) : Except LayoutError (List Item) × Builder :=
  (.ok (after.items.drop b.items.length), { b with toLayoutState := after })

variable {b}

theorem layout_advanced (builtin : b.renderers = .builtin) (map : Node) :
    b.layout map data = b.advanced (b.toSetting.walk data map b.toLayoutState).2 := by
  have ok := b.toSetting.walk_ok data builtin map b.toLayoutState
  simp only [layout, ok, Except.map, advanced]

/-- Maps that are laid out one after the other are walked one after the other. -/
theorem layoutEach_advanced (builtin : b.renderers = .builtin) (maps : List Node) :
    b.layoutEach data maps = b.advanced (b.toSetting.walkAll data maps b.toLayoutState).2 := by
  induction maps generalizing b with
  | nil => simp only [layoutEach, Setting.walkAll, advanced, List.drop_length]
  | cons map rest ih =>
      let st := (b.toSetting.walk data map b.toLayoutState).2
      let after := (b.toSetting.walkAll data rest st).2
      have laid : b.layout map data =
          (.ok (st.items.drop b.items.length), { b with toLayoutState := st }) :=
        layout_advanced data builtin map
      have others : Builder.layoutEach { b with toLayoutState := st } data rest =
          (.ok (after.items.drop st.items.length), { b with toLayoutState := after }) :=
        ih (b := { b with toLayoutState := st }) builtin
      have walked : b.toSetting.walkAll data (map :: rest) b.toLayoutState =
          b.toSetting.walkAll data rest st := b.toSetting.walkAll_cons data builtin map rest _
      -- the items of the first map and those of the others are the new items of both walks
      obtain ⟨new, first⟩ : b.items <+: st.items := (b.toSetting.walk_kept data map _).items
      obtain ⟨more, second⟩ : st.items <+: after.items :=
        (b.toSetting.walkAll_kept data rest _).items
      have together : st.items.drop b.items.length ++ after.items.drop st.items.length =
          after.items.drop b.items.length := by
        rw [← second, List.drop_left, ← first, List.append_assoc, List.drop_left, List.drop_left]
      rw [walked, layoutEach, laid]
      simp only [others, Except.map, together]
      rfl

theorem crashesEach_eq (builtin : b.renderers = .builtin) (maps : List Node) :
    b.crashesEach data maps = b.toSetting.crashesAll data maps b.toLayoutState := by
  induction maps generalizing b with
  | nil => rfl
  | cons map rest ih =>
      let st := (b.toSetting.walk data map b.toLayoutState).2
      have laid : b.layout map data =
          (.ok (st.items.drop b.items.length), { b with toLayoutState := st }) :=
        layout_advanced data builtin map
      rw [crashesEach, laid, Setting.crashesAll_cons data builtin]
      exact congrArg (_ || ·) (ih (b := { b with toLayoutState := st }) builtin)

end Builder

/-- An element that has no renderer. -/
def Node.sidebar : Node :=
  ⟨"Sidebar", ⟨[("FontSize", "9"), ("YSpacing", "50")], by decide⟩,
    [⟨"Text", .empty, [], "b"⟩, ⟨"Constants", .empty, [⟨"Title", .empty, [], "c"⟩], ""⟩], ""⟩

/-- A group whose size cannot be read, with a panel in it that holds a text and other elements. -/
def Node.oversized (others : List Node) : Node :=
  ⟨"Group", ⟨[("FontSize", "huge")], by decide⟩,
    [⟨"StackPanel", .empty, ⟨"Text", .empty, [], "a"⟩ :: others, ""⟩], ""⟩

/-- A group whose font weight crashes is not traceless: its layout does not come to an end, and that
    of the text in it does. -/
example :
    let group : Node :=
      ⟨"Group", ⟨[("FontWeight", "blac\u212a")], by decide⟩, [⟨"Text", .empty, [], "a"⟩], ""⟩
    Builder.twentyHigh.crashes group .null = true ∧
      Builder.twentyHigh.crashesEach .null group.children = false := by
  decide +kernel

end PageMap
