import PageMap.Document.Config
import PageMap.Document.Page
/-! # Documents

A document is a list of pages. An observer is told when a page comes into being and when something
is about to be laid out on it for the first time; it may change the page and keeps notes.
-/

namespace PageMap

/-- Why an operation on a document was refused. -/
inductive DocumentError where
  | pageOutOfRange (index count : Nat)
  | layout (cause : LayoutError)
  deriving DecidableEq

def DocumentError.message : DocumentError → String
  | .pageOutOfRange index count =>
      "Page index " ++ toString index ++ " is out of range for a document with " ++
        toString count ++ " pages"
  | .layout cause => "Layout error: " ++ cause.message

/-- An observer with notes of some type. -/
structure Observer (σ : Type) where
  /-- A page and its builder exist. -/
  pageCreated : Page → σ → Page × σ
  /-- The page at an index is about to be laid out for the first time. -/
  beforeLayout : Nat → Page → σ → Page × σ

/-- An observer that leaves everything as it is. -/
def Observer.silent {σ : Type} : Observer σ :=
  ⟨fun page notes => (page, notes), fun _ page notes => (page, notes)⟩

structure Document (σ : Type) where
  config : DocumentConfig
  /-- The settings of the builders of new pages. -/
  layoutConfig : LayoutConfig
  services : Services
  observer : Observer σ
  notes : σ
  pages : List Page
  /-- How far the record that was laid out last was moved down. -/
  offset : Single

namespace Document

variable {σ : Type}

def new (config : DocumentConfig) (layoutConfig : LayoutConfig) (services : Services)
    (observer : Observer σ) (notes : σ) : Document σ :=
  ⟨config, layoutConfig, services, observer, notes, [], 0.0⟩

/-- Changes the size of pages that are inserted without one from now on. -/
def setDefaultPageSize (d : Document σ) (size : PageSize) : Document σ :=
  { d with config := { d.config with defaultPageSize := size } }

/-- Inserts a new page at an index, or at the end if the index is beyond it. -/
def insertPage (d : Document σ) (index : Nat) (size : PageSize) : Document σ :=
  let (page, notes) := d.observer.pageCreated (.new size d.layoutConfig d.services) d.notes
  { d with notes, pages := d.pages.insertIdx (min index d.pages.length) page }

def insertDefaultPage (d : Document σ) (index : Nat) : Document σ :=
  d.insertPage index d.config.defaultPageSize

def page (d : Document σ) (index : Nat) : Except DocumentError Page :=
  match d.pages[index]? with
  | some page => .ok page
  | none => .error (.pageOutOfRange index d.pages.length)

def setPage (d : Document σ) (index : Nat) (page : Page) : Document σ :=
  { d with pages := d.pages.set index page }

def removePage (d : Document σ) (index : Nat) : Except DocumentError (Page × Document σ) := do
  let page ← d.page index
  return (page, { d with pages := d.pages.eraseIdx index })

/-- Tells the observer about the first layout of a page. -/
def announce (d : Document σ) (index : Nat) (page : Page) : Page × σ :=
  if page.laidOut then (page, d.notes) else d.observer.beforeLayout index page d.notes

/-- Lays a record out on a page, moved down by the height of the parts before it. -/
def layout (d : Document σ) (record : Json) (map : Node) (index part : Nat) :
    Except DocumentError (List Item) × Document σ :=
  match d.page index with
  | .error e => (.error e, d)
  | .ok page =>
      let offset := Single.ofNat part * d.config.partHeight
      let (page, notes) := d.announce index page
      let (result, page) :=
        { page with builder := { page.builder with offset } }.layout map record
      (result.mapError .layout, { d.setPage index page with notes, offset })

/-- Laying a record out on a page crashes. -/
def crashes (d : Document σ) (record : Json) (map : Node) (index part : Nat) : Bool :=
  match d.page index with
  | .error _ => false
  | .ok page =>
      let offset := Single.ofNat part * d.config.partHeight
      { (d.announce index page).1.builder with offset }.crashes map record

def load (d : Document σ) (map : Node) (index : Nat) :
    Except DocumentError (List String × Document σ) := do
  let page ← d.page index
  let (names, page) := page.load map
  return (names, d.setPage index page)

/-- Changes the frame of an item of the page at an index, if there are both. -/
def editFrame (d : Document σ) (index item : Nat) (edit : Frame → Frame) : Document σ :=
  { d with pages := d.pages.modify index fun page => page.editFrame item edit }

def drawPage (d : Document σ) (index : Nat) :
    Except DocumentError (List DrawOp × Document σ) := do
  let page ← d.page index
  let (page, ops) := page.draw index
  return (ops, d.setPage index page)

def draw (d : Document σ) : List DrawOp × Document σ :=
  let drawn := d.pages.mapIdx fun index page => page.draw index
  (drawn.flatMap (·.2), { d with pages := drawn.map (·.1) })

end Document

end PageMap
