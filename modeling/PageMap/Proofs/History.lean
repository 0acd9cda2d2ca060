import PageMap.Document.Basic
/-! # Histories

A document is used by one call after the other. Each call is answered, and those that draw go on
writing on the same surface. A builder on its own goes through calls in the same way. This file says
what such histories are; what holds after every history is shown call by call. A call that crashes
ends the program; a history that goes on after it is one that no program goes through.
-/

namespace PageMap

/-- A call of a function of a document. -/
inductive Call where
  | insertPage (index : Nat) (size : PageSize)
  | insertDefaultPage (index : Nat)
  | setDefaultPageSize (size : PageSize)
  | removePage (index : Nat)
  | layout (record : Json) (map : Node) (index part : Nat)
  | load (map : Node) (index : Nat)
  /-- Changes the frame of an item. -/
  | editFrame (index item : Nat) (edit : Frame → Frame)
  | drawPage (index : Nat)
  | draw

inductive Answer where
  | done
  | removed (page : Page)
  | placed (items : List Item)
  | loaded (names : List String)
  | refused (cause : DocumentError)

/-- The answer of a call that may have been refused. -/
def Answer.of {α : Type} (answer : α → Answer) : Except DocumentError α → Answer
  | .ok a => answer a
  | .error cause => .refused cause

/-- A document and what was drawn so far. -/
structure Session (σ : Type) where
  document : Document σ
  surface : List DrawOp

namespace Session

variable {σ : Type}

def perform (s : Session σ) : Call → Answer × Session σ
  | .insertPage index size => (.done, { s with document := s.document.insertPage index size })
  | .insertDefaultPage index => (.done, { s with document := s.document.insertDefaultPage index })
  | .setDefaultPageSize size => (.done, { s with document := s.document.setDefaultPageSize size })
  | .removePage index =>
      match s.document.removePage index with
      | .ok (page, document) => (.removed page, { s with document })
      | .error e => (.refused e, s)
  | .layout record map index part =>
      let (result, document) := s.document.layout record map index part
      (.of .placed result, { s with document })
  | .load map index =>
      match s.document.load map index with
      | .ok (names, document) => (.loaded names, { s with document })
      | .error e => (.refused e, s)
  | .editFrame index item edit =>
      (.done, { s with document := s.document.editFrame index item edit })
  | .drawPage index =>
      match s.document.drawPage index with
      | .ok (ops, document) => (.done, ⟨document, s.surface ++ ops⟩)
      | .error e => (.refused e, s)
  | .draw =>
      let (ops, document) := s.document.draw
      (.done, ⟨document, s.surface ++ ops⟩)

/-- Performs calls in order. Gives their answers. -/
def run (s : Session σ) : List Call → List Answer × Session σ
  | [] => ([], s)
  | call :: calls =>
      let (answer, s) := s.perform call
      let (answers, s) := s.run calls
      (answer :: answers, s)

@[simp]
theorem run_nil (s : Session σ) : s.run [] = ([], s) :=
  rfl

@[simp]
theorem run_cons (s : Session σ) (call : Call) (calls : List Call) : s.run (call :: calls) =
    ((s.perform call).1 :: ((s.perform call).2.run calls).1, ((s.perform call).2.run calls).2) :=
  rfl

/-- What every call preserves holds after every history. -/
theorem run_invariant {holds : Session σ → Prop}
    (step : ∀ s call, holds s → holds (s.perform call).2) {s : Session σ} (start : holds s)
    (calls : List Call) : holds (s.run calls).2 := by
  induction calls generalizing s with
  | nil => exact start
  | cons call calls ih => exact ih (step s call start)

end Session

/-! ### What a call does

A call either addresses a page that is there, or it is refused. -/

/-- The index of the page that a call cannot do without. -/
def Call.page? : Call → Option Nat
  | .removePage index | .layout _ _ index _ | .load _ index | .drawPage index => some index
  | .insertPage .. | .insertDefaultPage _ | .setDefaultPageSize _ | .editFrame .. | .draw => none

namespace Page

/-- Lays a record out, moved down by an offset. -/
def layoutAt (p : Page) (offset : Single) (record : Json) (map : Node) :
    Except LayoutError (List Item) × Page :=
  { p with builder := { p.builder with offset } }.layout map record

/-- The page as it is after drawing. -/
def settled (p : Page) : Page :=
  { p with builder := p.builder.draw.1 }

/-- What is drawn of the page at an index. -/
def drawing (p : Page) (index : Nat) : List DrawOp :=
  (p.draw index).2

theorem draw_eq (p : Page) (index : Nat) : p.draw index = (p.settled, p.drawing index) :=
  rfl

end Page

namespace Document

variable {σ : Type}

theorem page_of_getElem? {d : Document σ} {index : Nat} {page : Page}
    (there : d.pages[index]? = some page) : d.page index = .ok page := by
  simp only [Document.page, there]

theorem page_of_missing {d : Document σ} {index : Nat} (missing : d.pages[index]? = none) :
    d.page index = .error (.pageOutOfRange index d.pages.length) := by
  simp only [Document.page, missing]

theorem draw_eq (d : Document σ) : d.draw =
    (d.pages.zipIdx.flatMap fun (page, index) => page.drawing index,
      { d with pages := d.pages.map Page.settled }) := by
  have pages : d.pages.zipIdx.map (Page.settled ∘ Prod.fst) = d.pages.map Page.settled := by
    rw [← List.map_map, List.zipIdx_map_fst]
  simp only [draw, List.mapIdx_eq_zipIdx_map, List.flatMap_map, List.map_map]
  rw [← pages]
  rfl

end Document

namespace Session

variable {σ : Type} {s : Session σ} {index : Nat}

theorem perform_refused {call : Call} (addressed : call.page? = some index)
    (missing : s.document.pages[index]? = none) :
    s.perform call = (.refused (.pageOutOfRange index s.document.pages.length), s) := by
  have refused := Document.page_of_missing missing
  cases call with
  | insertPage | insertDefaultPage | setDefaultPageSize | editFrame | draw => cases addressed
  | removePage | layout | load | drawPage =>
      cases addressed
      simp only [perform, Document.removePage, Document.layout, Document.load, Document.drawPage,
        refused, bind, Except.bind, Answer.of]

section InRange

variable {page : Page} (there : s.document.pages[index]? = some page)

include there

theorem perform_removePage : s.perform (.removePage index) = (.removed page,
    { s with document := { s.document with pages := s.document.pages.eraseIdx index } }) := by
  simp only [perform, Document.removePage, Document.page_of_getElem? there]
  rfl

theorem perform_layout (record : Json) (map : Node) (part : Nat) :
    s.perform (.layout record map index part) =
      let offset := Single.ofNat part * s.document.config.partHeight
      let (announced, notes) := s.document.announce index page
      let (result, laid) := announced.layoutAt offset record map
      (.of .placed (result.mapError .layout),
        { s with document := { s.document.setPage index laid with notes, offset } }) := by
  simp only [perform, Document.layout, Document.page_of_getElem? there, Page.layoutAt]

theorem perform_load (map : Node) : s.perform (.load map index) = (.loaded (page.load map).1,
    { s with document := s.document.setPage index (page.load map).2 }) := by
  simp only [perform, Document.load, Document.page_of_getElem? there]
  rfl

theorem perform_drawPage : s.perform (.drawPage index) =
    (.done, ⟨s.document.setPage index page.settled, s.surface ++ page.drawing index⟩) := by
  simp only [perform, Document.drawPage, Document.page_of_getElem? there]
  rfl

end InRange

end Session

/-! ### Builders -/

/-- A call of a function of a builder. -/
inductive BuilderCall where
  | push (name raw : String)
  | pop (name : String)
  | load (map : Node)
  | layout (map : Node) (data : Json)
  | addText (text : String) (rect : Rect)
  | addImage (key : String) (intrinsic : Size) (rect : Rect)
  | draw
  | reset

namespace Builder

/-- The builder after a call. A push or a pop that is refused leaves it as it was. -/
def perform (b : Builder) : BuilderCall → Builder
  | .push name raw => (b.push name raw).toOption.getD b
  | .pop name => ((b.pop name).toOption.map (·.2)).getD b
  | .load map => (b.load map).2
  | .layout map data => (b.layout map data).2
  | .addText text rect => (b.addText text rect).2
  | .addImage key intrinsic rect => (b.addImage key intrinsic rect).2
  | .draw => b.draw.1
  | .reset => b.reset

/-- A push or a pop has an effect on the cascade, or none at all. -/
theorem perform_push (b : Builder) (name raw : String) :
    b.perform (.push name raw) = b ∨ ∃ key value, (b.resolver.read key raw).toOption = some value ∧
      b.perform (.push name raw) = { b with cascade := b.cascade.push key value } := by
  simp only [perform, push, readKey, bind, Except.bind]
  cases StyleKey.ofName? name with
  | none => exact .inl rfl
  | some key =>
      cases read : b.resolver.read key raw with
      | error e => exact .inl (by simp only [read]; rfl)
      | ok value => exact .inr ⟨key, value, congrArg _ read, by simp only [read]; rfl⟩

theorem perform_pop (b : Builder) (name : String) :
    b.perform (.pop name) = b ∨
      ∃ key, b.perform (.pop name) = { b with cascade := b.cascade.pop key } := by
  simp only [perform, pop, readKey]
  cases StyleKey.ofName? name with
  | none => exact .inl rfl
  | some key => exact .inr ⟨key, rfl⟩

/-- Performs calls in order. -/
def run (b : Builder) (calls : List BuilderCall) : Builder :=
  calls.foldl perform b

/-- What each of some calls preserves holds after all of them. -/
theorem run_invariant {holds : Builder → Prop} {calls : List BuilderCall}
    (step : ∀ call ∈ calls, ∀ b, holds b → holds (b.perform call)) {b : Builder}
    (start : holds b) : holds (b.run calls) := by
  induction calls generalizing b with
  | nil => exact start
  | cons call rest ih =>
      exact ih (fun other later => step other (List.mem_cons_of_mem _ later))
        (step call List.mem_cons_self b start)

end Builder

end PageMap
