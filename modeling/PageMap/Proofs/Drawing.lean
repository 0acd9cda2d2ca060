import PageMap.Proofs.Builtin
import PageMap.Proofs.History
import PageMap.Proofs.Visits
import Mathlib.Data.List.Forall2
/-! # What drawing paints

An item that does not need layout is drawn as it is, and a text that was never composed draws
nothing. That every text is painted all the same rests on how items come about: no function of items
marks a text as laid out and leaves it uncomposed. The main statement is `Session.draw_paints`.
-/

namespace PageMap

/-! ### Items that are ready -/

/-- An item that the functions of items make. Composers may differ from call to call. -/
inductive Item.Made : Item → Prop where
  | text (content : String) (style : TextStyle) (frame : Frame) : Made (.text content style frame)
  | image (key : String) (intrinsic : Size) (frame : Frame) : Made (.image key intrinsic frame)
  | setFrame {i : Item} (frame : Frame) : Made i → Made (i.setFrame frame)
  | setHighlight {i : Item} (highlight : Bool) : Made i → Made (i.setHighlight highlight)
  | moveDown {i : Item} (dy : Single) : Made i → Made (i.moveDown dy)
  | layout {i : Item} (compose : Composer) : Made i → Made (i.layout compose)
  | fitHeight {i : Item} (compose : Composer) : Made i → Made (i.fitHeight compose)

/-- Content that can be drawn: an image, or a text that is composed. -/
def ItemContent.ready : ItemContent → Bool
  | .text _ _ composed => composed.isSome
  | .image .. => true

namespace Item

theorem layout_ready (compose : Composer) (i : Item) : (i.layout compose).content.ready := by
  cases h : i.content <;> simp [layout, h, ItemContent.ready]

@[simp]
theorem layout_needsLayout (compose : Composer) (i : Item) :
    (i.layout compose).needsLayout = false := by
  cases h : i.content <;> simp [layout, h]

@[simp]
theorem layout_frame (compose : Composer) (i : Item) : (i.layout compose).frame = i.frame := by
  cases h : i.content <;> simp [layout, h]

theorem fitHeight_ready (compose : Composer) (i : Item) : (i.fitHeight compose).content.ready := by
  unfold fitHeight
  split <;> exact layout_ready compose _

/-- An item that does not need layout can be drawn as it is. -/
theorem Made.ready {i : Item} (made : i.Made) (settled : i.needsLayout = false) :
    i.content.ready := by
  induction made with
  -- these items need layout
  | text | image | setFrame => cases settled
  | setHighlight _ _ ih | moveDown _ _ ih => exact ih settled
  | layout compose => exact layout_ready compose _
  | fitHeight compose => exact fitHeight_ready compose _

theorem Made.settle {i : Item} (made : i.Made) (compose : Composer) : (i.settle compose).Made := by
  unfold Item.settle
  split
  · exact made.layout compose
  · exact made

section Settle

variable (compose : Composer) (i : Item)

@[simp]
theorem settle_needsLayout : (i.settle compose).needsLayout = false := by
  cases h : i.needsLayout <;> simp [settle, h]

@[simp]
theorem settle_frame : (i.settle compose).frame = i.frame := by
  cases h : i.needsLayout <;> simp [settle, h]

@[simp]
theorem settle_settle : (i.settle compose).settle compose = i.settle compose := by
  rw [settle, settle_needsLayout]
  rfl

theorem settle_text {content : String} {style : TextStyle} {composed : Option Composed}
    (h : i.content = .text content style composed) :
    ∃ composed', (i.settle compose).content = .text content style composed' := by
  cases needed : i.needsLayout <;> simp [settle, needed, layout, h]

theorem settle_image {key : String} {intrinsic : Size} (h : i.content = .image key intrinsic) :
    (i.settle compose).content = .image key intrinsic := by
  cases needed : i.needsLayout <;> simp [settle, needed, layout, h]

end Settle

/-! ### Paintings -/

/-- An operation shows the content of an item: a text in the lines that it is composed in, or an
    image, within the rectangle that layout found. -/
def Shown (compose : Composer) (i : Item) (op : DrawOp) : Prop :=
  let settled := i.settle compose
  match i.content with
  | .text content style _ =>
      ∃ composed, settled.content = .text content style (some composed) ∧
        op = .text content composed.lines settled.used style.family style.size style.foreground
          i.frame.rotation
  | .image _ intrinsic => op = .image settled.used intrinsic i.frame.rotation

/-- Operations paint an item: its container is filled if there is a background, its content is shown
    once, and then the container is outlined, by a border of a positive thickness if there is one,
    and again if it is highlighted. -/
def Painted (compose : Composer) (i : Item) (ops : List DrawOp) : Prop :=
  let border := i.frame.border.filter fun border => 0.0 < border.thickness
  ∃ content, i.Shown compose content ∧ ops =
    (i.frame.background.map fun color => .fillRect i.frame.container color).toList ++
    [content] ++
    (border.map fun b => .strokeRect i.frame.container b.brush b.thickness).toList ++
    if i.frame.highlight then [.strokeRect i.frame.container highlightColor highlightThickness]
    else []

theorem backgroundOps_eq (i : Item) : i.backgroundOps =
    (i.frame.background.map fun color => .fillRect i.frame.container color).toList := by
  cases h : i.frame.background <;> simp [backgroundOps, h]

theorem borderOps_eq (i : Item) : i.borderOps =
    ((i.frame.border.filter fun border => 0.0 < border.thickness).map fun border =>
      .strokeRect i.frame.container border.brush border.thickness).toList := by
  cases h : i.frame.border with
  | none => simp [borderOps, h]
  | some border =>
      by_cases positive : 0.0 < border.thickness <;> simp [borderOps, h, positive, Option.filter]

theorem Made.shown {i : Item} (made : i.Made) (compose : Composer) :
    ∃ op, i.Shown compose op ∧ (i.settle compose).contentOps = [op] := by
  have ready := (made.settle compose).ready (settle_needsLayout compose i)
  cases h : i.content with
  | text content style before =>
      obtain ⟨composed, settled⟩ := settle_text compose i h
      rw [settled] at ready
      obtain ⟨composed, rfl⟩ := Option.isSome_iff_exists.mp ready
      refine ⟨_, ?_, by rw [contentOps, settled]⟩
      simp only [Shown, h, settle_frame]
      exact ⟨composed, settled, rfl⟩
  | image key intrinsic =>
      refine ⟨_, ?_, by rw [contentOps, settle_image compose i h]⟩
      simp only [Shown, h, settle_frame]

theorem Made.painted {i : Item} (made : i.Made) (compose : Composer) :
    i.Painted compose (i.draw compose).2 := by
  obtain ⟨op, shown, content⟩ := made.shown compose
  refine ⟨op, shown, ?_⟩
  simp only [draw, ops, content, backgroundOps_eq, borderOps_eq, highlightOps, settle_frame]

/-- Drawing an item again paints the same. -/
theorem draw_settle (compose : Composer) (i : Item) :
    ((i.settle compose).draw compose).2 = (i.draw compose).2 := by
  simp only [draw, settle_settle]

end Item

/-! ### Pages -/

namespace Page

/-- Operations paint the page at an index: between a beginning and an end with that index, every
    item is painted, in order. -/
def Painted (p : Page) (index : Nat) (ops : List DrawOp) : Prop :=
  ∃ paintings, List.Forall₂ (Item.Painted p.builder.services.compose) p.items paintings ∧
    ops = [.beginPage index p.media.size] ++ paintings.flatten ++ [.endPage index]

theorem drawing_painted {p : Page} (made : ∀ i ∈ p.items, i.Made) (index : Nat) :
    p.Painted index (p.drawing index) := by
  refine ⟨p.items.map fun i => (i.draw p.builder.services.compose).2, ?_, ?_⟩
  · rw [List.forall₂_map_right_iff, List.forall₂_same]
    exact fun i member => (made i member).painted _
  · rw [← List.flatMap_def]
    rfl

@[simp]
theorem settled_settled (p : Page) : p.settled.settled = p.settled := by
  simp only [settled, Builder.draw, List.map_map, Function.comp_def, Item.settle_settle]

@[simp]
theorem settled_drawing (p : Page) (index : Nat) : p.settled.drawing index = p.drawing index := by
  simp only [drawing, draw, settled, Builder.draw, List.flatMap_map, Item.draw_settle]

theorem settled_needsLayout (p : Page) : ∀ i ∈ p.settled.items, i.needsLayout = false := by
  intro i member
  obtain ⟨before, -, rfl⟩ := List.mem_map.mp member
  exact Item.settle_needsLayout _ before

end Page

/-! ### Items of every history -/

/-- The items of a renderer are made by the functions of items. -/
def Renderer.Proper (r : Renderer) : Prop :=
  ∀ node data site outcome, r.render node data site = .ok outcome → ∀ i ∈ outcome.items, i.Made

theorem TextElement.outcome_made (source : TextSource) (node : Node) (data : Json) (site : Site) :
    ∀ i ∈ (outcome source node data site).items, i.Made := by
  intro i left
  have made : (frameItem node site (cleanedContent source node data site)).Made := .text _ _ _
  obtain ⟨-, rfl | rfl⟩ := item_of_mem left
  · exact made
  · exact made.fitHeight _

theorem ImageElement.outcome_made (node : Node) (data : Json) (site : Site) :
    ∀ i ∈ (outcome node data site).items, i.Made := by
  intro i left
  obtain ⟨key, intrinsic, frame, rfl⟩ := item_of_mem left
  exact .image key intrinsic frame

namespace Renderers

def Proper (r : Renderers) : Prop :=
  ∀ name renderer, r.get? name = some renderer → renderer.Proper

theorem Proper.render {r : Renderers} (proper : r.Proper) {node : Node} {data : Json} {site : Site}
    {outcome : Outcome} (rendered : r.render node data site = .ok outcome) :
    ∀ i ∈ outcome.items, i.Made := by
  unfold Renderers.render at rendered
  split at rendered
  · rename_i renderer found
    exact proper _ renderer found node data site outcome rendered
  · cases rendered
    simp [Outcome.passThrough]

theorem builtin_proper : builtin.Proper := by
  intro name renderer found node data site outcome rendered i member
  rw [ElementKind.builtin_get?] at found
  cases kind : ElementKind.ofName name <;> rw [kind] at found <;> cases found <;> cases rendered
  -- no other kind of element amounts to items
  case text source => exact TextElement.outcome_made source node data site i member
  case image => exact ImageElement.outcome_made node data site i member
  all_goals cases member

end Renderers

theorem Setting.walk_made {s : Setting} (proper : s.renderers.Proper) (data : Json) (node : Node)
    {st : LayoutState} (before : ∀ i ∈ st.items, i.Made) :
    ∀ i ∈ (s.walk data node st).2.items, i.Made := by
  intro i member
  rw [s.walk_items data [] node st] at member
  rcases List.mem_append.mp member with old | new
  · exact before i old
  · obtain ⟨v, -, left⟩ := List.mem_flatMap.mp new
    unfold itemsAt at left
    split at left
    · cases left
    · rename_i outcome rendered
      exact proper.render rendered i left

theorem forall_mem_modify {α : Type} {holds : α → Prop} {f : α → α}
    (keeps : ∀ a, holds a → holds (f a)) {l : List α} (all : ∀ a ∈ l, holds a) (index : Nat) :
    ∀ a ∈ l.modify index f, holds a := by
  intro a member
  obtain ⟨place, there⟩ := List.mem_iff_getElem?.mp member
  rw [List.getElem?_modify] at there
  obtain ⟨before, old, rfl⟩ := Option.map_eq_some_iff.mp there
  have held := all before (List.mem_of_getElem? old)
  split
  · exact keeps before held
  · exact held

/-- The items of a page are made by the functions of items, and so are those of its renderers. -/
structure Page.Proper (p : Page) : Prop where
  items : ∀ i ∈ p.items, i.Made
  renderers : p.builder.renderers.Proper

namespace Page.Proper

variable {p : Page} (proper : p.Proper)

theorem new (size : PageSize) (config : LayoutConfig) (services : Services) :
    (Page.new size config services).Proper where
  items _ member := absurd member List.not_mem_nil
  renderers := Renderers.builtin_proper

include proper

theorem layoutAt (offset : Single) (record : Json) (map : Node) :
    (p.layoutAt offset record map).2.Proper where
  items := Setting.walk_made (s := { p.builder.toSetting with offset }) proper.renderers record map
    proper.items
  renderers := proper.renderers

theorem load (map : Node) : (p.load map).2.Proper :=
  ⟨proper.items, proper.renderers⟩

theorem editFrame (index : Nat) (edit : Frame → Frame) : (p.editFrame index edit).Proper where
  items := forall_mem_modify (fun _ made => made.setFrame _) proper.items index
  renderers := proper.renderers

theorem settled : p.settled.Proper where
  items := by
    intro i member
    obtain ⟨before, there, rfl⟩ := List.mem_map.mp member
    exact (proper.items before there).settle _
  renderers := proper.renderers

end Page.Proper

/-- An observer gets items and renderers from nowhere else. -/
structure Observer.Proper {σ : Type} (o : Observer σ) : Prop where
  pageCreated (page : Page) (notes : σ) : page.Proper → (o.pageCreated page notes).1.Proper
  beforeLayout (index : Nat) (page : Page) (notes : σ) :
    page.Proper → (o.beforeLayout index page notes).1.Proper

structure Document.Proper {σ : Type} (d : Document σ) : Prop where
  observer : d.observer.Proper
  pages : ∀ page ∈ d.pages, page.Proper

namespace Document.Proper

variable {σ : Type} {d : Document σ} (proper : d.Proper)

include proper

theorem insertPage (index : Nat) (size : PageSize) : (d.insertPage index size).Proper where
  observer := proper.observer
  pages := by
    intro page member
    rcases (List.mem_insertIdx (Nat.min_le_right ..)).mp member with rfl | old
    · exact proper.observer.pageCreated _ _ (.new _ _ _)
    · exact proper.pages page old

theorem setPage (index : Nat) {page : Page} (new : page.Proper) :
    (d.setPage index page).Proper where
  observer := proper.observer
  pages := by
    intro other member
    rcases List.mem_or_eq_of_mem_set member with old | rfl
    · exact proper.pages other old
    · exact new

theorem announce (index : Nat) {page : Page} (old : page.Proper) :
    (d.announce index page).1.Proper := by
  unfold Document.announce
  split
  · exact old
  · exact proper.observer.beforeLayout index page d.notes old

theorem draw : d.draw.2.Proper := by
  rw [Document.draw_eq]
  refine ⟨proper.observer, fun page member => ?_⟩
  obtain ⟨before, old, rfl⟩ := List.mem_map.mp member
  exact (proper.pages before old).settled

end Document.Proper

namespace Session

variable {σ : Type}

theorem perform_proper (s : Session σ) (call : Call) (proper : s.document.Proper) :
    (s.perform call).2.document.Proper := by
  cases call with
  | insertPage index size => exact proper.insertPage index size
  | insertDefaultPage index => exact proper.insertPage index _
  | setDefaultPageSize => exact ⟨proper.observer, proper.pages⟩
  | removePage index =>
      cases there : s.document.pages[index]? with
      | none => rwa [perform_refused rfl there]
      | some page =>
          rw [perform_removePage there]
          exact ⟨proper.observer, fun other member =>
            proper.pages other (List.mem_of_mem_eraseIdx member)⟩
  | layout record map index part =>
      cases there : s.document.pages[index]? with
      | none => rwa [perform_refused rfl there]
      | some page =>
          rw [perform_layout there]
          have announced := proper.announce index (proper.pages page (List.mem_of_getElem? there))
          exact ⟨proper.observer, (proper.setPage index (announced.layoutAt _ record map)).pages⟩
  | load map index =>
      cases there : s.document.pages[index]? with
      | none => rwa [perform_refused rfl there]
      | some page =>
          rw [perform_load there]
          exact proper.setPage index ((proper.pages page (List.mem_of_getElem? there)).load map)
  | editFrame index item edit =>
      exact ⟨proper.observer,
        forall_mem_modify (fun _ old => old.editFrame item edit) proper.pages index⟩
  | drawPage index =>
      cases there : s.document.pages[index]? with
      | none => rwa [perform_refused rfl there]
      | some page =>
          rw [perform_drawPage there]
          exact proper.setPage index (proper.pages page (List.mem_of_getElem? there)).settled
  | draw => exact proper.draw

theorem run_proper (s : Session σ) (proper : s.document.Proper) (calls : List Call) :
    (s.run calls).2.document.Proper :=
  run_invariant perform_proper proper calls

/-! ### Documents -/

/-- Drawing the last pages of a document one by one, when those before them are drawn. -/
theorem run_drawPages_from (s : Session σ) (done rest : List Page)
    (pages : s.document.pages = done ++ rest) :
    s.run ((List.range' done.length rest.length).map .drawPage) =
      (List.replicate rest.length .done,
        { document := { s.document with pages := done ++ rest.map Page.settled }
          surface := s.surface ++
            (rest.zipIdx done.length).flatMap fun (page, index) => page.drawing index }) := by
  induction rest generalizing s done with
  | nil =>
      rw [List.append_nil] at pages
      simp only [List.length_nil, List.range'_zero, List.map_nil, run_nil, List.append_nil,
        List.zipIdx_nil, List.flatMap_nil, List.replicate_zero, ← pages]
  | cons page rest ih =>
      -- the index is that of the first page that is not drawn yet
      have there : s.document.pages[done.length]? = some page := by
        rw [pages, List.getElem?_append_right (Nat.le_refl _), Nat.sub_self,
          List.getElem?_cons_zero]
      have drawn : (s.document.setPage done.length page.settled).pages =
          (done ++ [page.settled]) ++ rest := by
        simp only [Document.setPage, pages, List.set_append_right _ _ (Nat.le_refl _), Nat.sub_self,
          List.set_cons_zero, List.append_assoc, List.singleton_append]
      have others := ih ⟨s.document.setPage done.length page.settled,
        s.surface ++ page.drawing done.length⟩ _ drawn
      rw [List.length_append, List.length_singleton] at others
      rw [List.length_cons, List.range'_succ, List.map_cons, run_cons, perform_drawPage there,
        others]
      simp only [Document.setPage, List.replicate_succ, List.map_cons, List.append_assoc,
        List.singleton_append, List.zipIdx_cons, List.flatMap_cons]

/-- Drawing all pages one by one, in order, amounts to drawing the document. -/
theorem run_drawPages (s : Session σ) :
    s.run ((List.range s.document.pages.length).map .drawPage) =
      (List.replicate s.document.pages.length .done, (s.perform .draw).2) := by
  rw [List.range_eq_range', perform, Document.draw_eq]
  exact s.run_drawPages_from [] s.document.pages rfl

end Session

/-- Operations paint a document: every page is painted with its index, in order. -/
def Document.Painted {σ : Type} (d : Document σ) (ops : List DrawOp) : Prop :=
  ∃ paintings, ops = paintings.flatten ∧
    List.Forall₂ (fun (page, index) painting => page.Painted index painting) d.pages.zipIdx
      paintings

theorem Document.Proper.painted {σ : Type} {d : Document σ} (proper : d.Proper) :
    d.Painted d.draw.1 := by
  refine ⟨d.pages.zipIdx.map fun (page, index) => page.drawing index, ?_, ?_⟩
  · rw [Document.draw_eq, List.flatMap_def]
  · rw [List.forall₂_map_right_iff, List.forall₂_same]
    intro ⟨page, index⟩ member
    exact page.drawing_painted (proper.pages page (List.fst_mem_of_mem_zipIdx member)).items index

/-- Drawing a document again paints the same and changes nothing. -/
theorem Document.draw_draw {σ : Type} (d : Document σ) : d.draw.2.draw = d.draw := by
  simp only [Document.draw_eq, List.zipIdx_map, List.flatMap_map, List.map_map, Function.comp_def,
    Page.settled_settled, Prod.map, id, Page.settled_drawing]

namespace Session

variable {σ : Type}

/-- After any history, drawing the document paints every page between a beginning and an end with
    its index, and on it every item once: perhaps a background, then the content, then perhaps a
    border and the outline of a highlight, and nothing else. It comes to the same as drawing the
    pages one by one. Afterwards no item needs layout, so that drawing again paints the same and
    changes nothing. An observer may take part, as long as it gets items from the functions of
    items. -/
theorem draw_paints (config : DocumentConfig) (layoutConfig : LayoutConfig) (services : Services)
    {observer : Observer σ} (proper : observer.Proper) (notes : σ) (surface : List DrawOp)
    (calls : List Call) :
    let s := (run ⟨.new config layoutConfig services observer notes, surface⟩ calls).2
    let drawn := (s.perform .draw).2
    ∃ ops, drawn.surface = s.surface ++ ops ∧ s.document.Painted ops ∧
      s.run ((List.range s.document.pages.length).map .drawPage) =
        (List.replicate s.document.pages.length .done, drawn) ∧
      (∀ page ∈ drawn.document.pages, ∀ i ∈ page.items, i.needsLayout = false) ∧
      drawn.perform .draw = (.done, { drawn with surface := drawn.surface ++ ops }) := by
  intro s drawn
  have new : (Document.new config layoutConfig services observer notes).Proper :=
    ⟨proper, fun _ member => absurd member List.not_mem_nil⟩
  have reached : s.document.Proper := run_proper _ new calls
  have document : drawn.document = s.document.draw.2 := rfl
  refine ⟨s.document.draw.1, rfl, reached.painted, s.run_drawPages, ?_, ?_⟩
  · intro page member
    rw [document, Document.draw_eq] at member
    obtain ⟨before, -, rfl⟩ := List.mem_map.mp member
    exact before.settled_needsLayout
  · rw [perform, document, Document.draw_draw]

end Session

/-- Puts the number of a page on it when it is inserted. -/
def Observer.numbering : Observer Nat where
  pageCreated page number :=
    ({ page with builder := (page.builder.addText (toString number) page.media).2 }, number + 1)
  beforeLayout _ page number := (page, number)

theorem Observer.numbering_proper : numbering.Proper where
  pageCreated page number proper := by
    refine ⟨fun i member => ?_, proper.renderers⟩
    rcases List.mem_append.mp member with old | new
    · exact proper.items i old
    · obtain rfl := List.mem_singleton.mp new
      exact .text _ _ _
  beforeLayout _ _ _ := id

/-- A page with a number and a text, which is drawn before the text is highlighted, and a second
    page in front of it. -/
def Call.highlighting : List Call :=
  [.insertDefaultPage 0, .layout .null ⟨"Text", .empty, [], "a"⟩ 0 0, .drawPage 0,
    .editFrame 0 1 fun frame => { frame with highlight := true }, .insertDefaultPage 0]

theorem Session.draw_paints_numbered :
    Observer.numbering.Proper ∧
    let s := (run ⟨.new .default .default .default .numbering 1, []⟩ Call.highlighting).2
    let drawn := (s.perform .draw).2
    s.surface.length = 4 ∧ ∃ ops, ops.length = 8 ∧ drawn.surface = s.surface ++ ops ∧
      s.document.Painted ops ∧
      drawn.perform .draw = (.done, { drawn with surface := drawn.surface ++ ops }) := by
  refine ⟨Observer.numbering_proper, ?_⟩
  intro s drawn
  obtain ⟨ops, surface, painted, -, -, again⟩ := draw_paints .default .default .default
    Observer.numbering_proper 1 [] Call.highlighting
  have before : s.surface.length = 4 := by decide +kernel
  have after : drawn.surface.length = 12 := by decide +kernel
  have count : ops.length = 8 := by
    have total : drawn.surface = s.surface ++ ops := surface
    rw [total, List.length_append, before] at after
    omega
  exact ⟨before, ops, count, surface, painted, again⟩

end PageMap
