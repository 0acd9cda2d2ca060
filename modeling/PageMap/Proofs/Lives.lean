import PageMap.Proofs.Builtin
import PageMap.Proofs.History
import Mathlib.Data.List.Basic
import Mathlib.Data.List.InsertIdx
/-! # The lives of pages

What a page is, is decided by the size that it was made with and by what has befallen it since,
wherever it stood at the time and whatever befell other pages. A document without an observer can
therefore be told by an outline, which follows nothing but the lives of its pages: the main
statement is `Session.run_lives`.
-/

namespace PageMap

/-- What can befall a page. -/
inductive Page.Event where
  | layout (record : Json) (map : Node) (part : Nat)
  | load (map : Node)
  | editFrame (item : Nat) (edit : Frame → Frame)
  | drawn

/-- What an event makes of a page, where parts have a height. -/
def Page.befall (partHeight : Single) (p : Page) : Event → Page
  | .layout record map part => (p.layoutAt (Single.ofNat part * partHeight) record map).2
  | .load map => (p.load map).2
  | .editFrame item edit => p.editFrame item edit
  | .drawn => p.settled

/-- The size that a page was made with, and all that has befallen it. -/
structure Life where
  size : PageSize
  events : List Page.Event

def Life.extend (l : Life) (event : Page.Event) : Life :=
  { l with events := l.events ++ [event] }

/-- A document in terms of the lives of its pages. -/
structure Outline where
  defaultSize : PageSize
  lives : List Life
  /-- How far the record that was laid out last was moved down. -/
  offset : Single

namespace Outline

/-- A life begins at an index, or at the end if the index is beyond it. -/
def insert (o : Outline) (index : Nat) (size : PageSize) : Outline :=
  { o with lives := o.lives.insertIdx (min index o.lives.length) ⟨size, []⟩ }

/-- Something befalls the page at an index, if there is one. -/
def befall (o : Outline) (index : Nat) (event : Page.Event) : Outline :=
  { o with lives := o.lives.modify index fun life => life.extend event }

def perform (partHeight : Single) (o : Outline) : Call → Outline
  | .insertPage index size => o.insert index size
  | .insertDefaultPage index => o.insert index o.defaultSize
  | .setDefaultPageSize size => { o with defaultSize := size }
  | .removePage index => { o with lives := o.lives.eraseIdx index }
  | .layout record map index part =>
      let offset := if index < o.lives.length then Single.ofNat part * partHeight else o.offset
      { o.befall index (.layout record map part) with offset }
  | .load map index => o.befall index (.load map)
  | .editFrame index item edit => o.befall index (.editFrame item edit)
  | .drawPage index => o.befall index .drawn
  | .draw => { o with lives := o.lives.map fun life => life.extend .drawn }

/-- The outline of the document that a history leads to. -/
def after (config : DocumentConfig) (calls : List Call) : Outline :=
  calls.foldl (perform config.partHeight) ⟨config.defaultPageSize, [], 0.0⟩

/-- The answer to a call that needs the page at an index. -/
def answerAt (o : Outline) (index : Nat) (answer : Life → Answer) : Answer :=
  match o.lives[index]? with
  | some life => answer life
  | none => .refused (.pageOutOfRange index o.lives.length)

section AnswerAt

variable {o : Outline} {index : Nat} (answer : Life → Answer)

theorem answerAt_some {life : Life} (there : o.lives[index]? = some life) :
    o.answerAt index answer = answer life := by
  simp only [answerAt, there]

theorem answerAt_missing (missing : o.lives[index]? = none) :
    o.answerAt index answer = .refused (.pageOutOfRange index o.lives.length) := by
  simp only [answerAt, missing]

end AnswerAt

end Outline

namespace Document

variable {σ : Type} (d : Document σ)

/-- The page that has had a life in a document. -/
def pageOf (life : Life) : Page :=
  life.events.foldl (Page.befall d.config.partHeight) (.new life.size d.layoutConfig d.services)

/-- The document that an outline tells of, with the settings of another document. -/
def outlined (o : Outline) : Document σ :=
  { d with
    config := { d.config with defaultPageSize := o.defaultSize }
    pages := o.lives.map d.pageOf
    offset := o.offset }

/-- The answer to a call of the document that an outline tells of. -/
def answer (o : Outline) : Call → Answer
  | .insertPage .. | .insertDefaultPage _ | .setDefaultPageSize _ | .editFrame .. | .draw => .done
  | .removePage index => o.answerAt index fun life => .removed (d.pageOf life)
  | .layout record map index part => o.answerAt index fun life =>
      let laid := d.pageOf (life.extend (.layout record map part))
      .placed (laid.items.drop (d.pageOf life).items.length)
  | .load map index =>
      o.answerAt index fun _ => .loaded ((Renderers.builtin.constants map).map (·.1))
  | .drawPage index => o.answerAt index fun _ => .done

end Document

/-! ### What befalls a page -/

namespace Page

theorem befall_renderers (partHeight : Single) (p : Page) (event : Event) :
    (p.befall partHeight event).builder.renderers = p.builder.renderers := by
  cases event <;> rfl

/-- With the built-in renderers, laying a record out gives the items that are new on the page. -/
theorem layoutAt_builtin {p : Page} (builtin : p.builder.renderers = .builtin) (offset : Single)
    (record : Json) (map : Node) : (p.layoutAt offset record map).1 =
      .ok ((p.layoutAt offset record map).2.items.drop p.items.length) := by
  have ok := Setting.walk_ok (s := { p.builder.toSetting with offset }) record builtin map
    p.builder.toLayoutState
  simp only [layoutAt, layout, Builder.layout, ok]
  rfl

end Page

namespace Document

variable {σ : Type} (d : Document σ)

theorem pageOf_extend (life : Life) (event : Page.Event) :
    d.pageOf (life.extend event) = (d.pageOf life).befall d.config.partHeight event := by
  rw [pageOf, Life.extend, List.foldl_append]
  rfl

theorem pageOf_renderers (life : Life) : (d.pageOf life).builder.renderers = .builtin := by
  have kept (events : List Page.Event) (p : Page) :
      (events.foldl (Page.befall d.config.partHeight) p).builder.renderers =
        p.builder.renderers := by
    induction events generalizing p with
    | nil => rfl
    | cons event rest ih => rw [List.foldl_cons, ih, Page.befall_renderers]
  exact kept life.events _

end Document

/-! ### One call -/

theorem map_modify {α β : Type} {f : α → α} {g : α → β} {h : β → β}
    (same : ∀ a, g (f a) = h (g a)) (l : List α) (index : Nat) :
    (l.modify index f).map g = (l.map g).modify index h := by
  induction l generalizing index with
  | nil => simp only [List.modify_nil, List.map_nil]
  | cons a rest ih =>
      cases index with
      | zero => simp only [List.modify_zero_cons, List.map_cons, same]
      | succ index => simp only [List.modify_succ_cons, List.map_cons, ih]

namespace Document

variable {σ : Type} (d : Document σ) {o : Outline} {index : Nat}

theorem getElem?_outlined {life : Life} (there : o.lives[index]? = some life) :
    (d.outlined o).pages[index]? = some (d.pageOf life) := by
  simp only [outlined, List.getElem?_map, there, Option.map_some]

theorem length_outlined (o : Outline) : (d.outlined o).pages.length = o.lives.length :=
  List.length_map ..

theorem outlined_befall (o : Outline) (index : Nat) (event : Page.Event) :
    d.outlined (o.befall index event) =
      { d.outlined o with
        pages := (d.outlined o).pages.modify index fun page =>
          page.befall d.config.partHeight event } := by
  simp only [outlined, Outline.befall]
  rw [map_modify (h := fun page => page.befall d.config.partHeight event)
    fun life => d.pageOf_extend life event]

/-- The functions that change one page put what they made of it in its place. -/
theorem setPage_outlined {life : Life} (there : o.lives[index]? = some life) (event : Page.Event) :
    (d.outlined o).setPage index ((d.pageOf life).befall d.config.partHeight event) =
      d.outlined (o.befall index event) := by
  rw [outlined_befall, List.modify_eq_set_getElem?, d.getElem?_outlined there]
  rfl

theorem insertPage_outlined (silent : d.observer = .silent) (o : Outline) (index : Nat)
    (size : PageSize) :
    (d.outlined o).insertPage index size = d.outlined (o.insert index size) := by
  have created (page : Page) (notes : σ) : d.observer.pageCreated page notes = (page, notes) := by
    rw [silent]
    rfl
  simp only [outlined, insertPage, created, Outline.insert, List.map_insertIdx, List.length_map]
  rfl

theorem announce_outlined (silent : d.observer = .silent) (o : Outline) (index : Nat)
    (page : Page) : (d.outlined o).announce index page = (page, d.notes) := by
  simp only [outlined, announce, silent, Observer.silent, ite_self]

theorem answer_refused {call : Call} (addressed : call.page? = some index) (cause : DocumentError) :
    d.answer o call = .refused cause ↔
      cause = .pageOutOfRange index o.lives.length ∧ o.lives.length ≤ index := by
  cases call with
  | removePage | layout | load | drawPage =>
      cases addressed
      simp only [answer]
      cases there : o.lives[index]? with
      | none =>
          have beyond := List.getElem?_eq_none_iff.mp there
          rw [Outline.answerAt_missing _ there, Answer.refused.injEq]
          exact ⟨fun same => ⟨same.symm, beyond⟩, fun ⟨same, _⟩ => same.symm⟩
      | some life =>
          have inside := (List.getElem?_eq_some_iff.mp there).1
          rw [Outline.answerAt_some _ there]
          exact ⟨nofun, fun ⟨_, beyond⟩ => absurd inside (Nat.not_lt.mpr beyond)⟩
  | insertPage | insertDefaultPage | setDefaultPageSize | editFrame | draw => cases addressed

end Document

/-- A call that needs a page which is not there does not change an outline. -/
theorem Outline.perform_missing {o : Outline} {call : Call} {index : Nat}
    (addressed : call.page? = some index) (missing : o.lives[index]? = none)
    (partHeight : Single) : o.perform partHeight call = o := by
  have beyond := List.getElem?_eq_none_iff.mp missing
  have unaffected (event : Page.Event) : o.befall index event = o := by
    rw [befall, List.modify_eq_self beyond]
  cases call with
  | removePage =>
      cases addressed
      simp only [perform, List.eraseIdx_of_length_le beyond]
  | layout record map _ part =>
      cases addressed
      simp only [perform, unaffected, if_neg (Nat.not_lt.mpr beyond)]
  | load | drawPage =>
      cases addressed
      exact unaffected _
  | insertPage | insertDefaultPage | setDefaultPageSize | editFrame | draw => cases addressed

namespace Session

variable {σ : Type} {d : Document σ}

theorem perform_outlined_missing {o : Outline} {call : Call} {index : Nat}
    (addressed : call.page? = some index) (missing : o.lives[index]? = none)
    (surface : List DrawOp) :
    (perform ⟨d.outlined o, surface⟩ call).1 = d.answer o call ∧
    (perform ⟨d.outlined o, surface⟩ call).2.document =
      d.outlined (o.perform d.config.partHeight call) := by
  have beyond := List.getElem?_eq_none_iff.mp missing
  have none : (d.outlined o).pages[index]? = none := by
    rw [List.getElem?_eq_none_iff, d.length_outlined]
    exact beyond
  have refused := (d.answer_refused addressed _).mpr ⟨rfl, beyond⟩
  rw [perform_refused addressed none, Outline.perform_missing addressed missing, refused,
    d.length_outlined]
  exact ⟨rfl, rfl⟩

/-- A call does to a document what it does to the lives of its pages. -/
theorem perform_outlined (silent : d.observer = .silent) (o : Outline) (surface : List DrawOp)
    (call : Call) :
    (perform ⟨d.outlined o, surface⟩ call).1 = d.answer o call ∧
    (perform ⟨d.outlined o, surface⟩ call).2.document =
      d.outlined (o.perform d.config.partHeight call) := by
  cases call with
  | insertPage index size => exact ⟨rfl, d.insertPage_outlined silent o index size⟩
  | insertDefaultPage index => exact ⟨rfl, d.insertPage_outlined silent o index o.defaultSize⟩
  | setDefaultPageSize size => exact ⟨rfl, rfl⟩
  | removePage index =>
      cases there : o.lives[index]? with
      | none => exact perform_outlined_missing rfl there surface
      | some life =>
          rw [perform_removePage (d.getElem?_outlined there)]
          refine ⟨(o.answerAt_some (fun life => .removed (d.pageOf life)) there).symm, ?_⟩
          simp only [Outline.perform, Document.outlined, List.eraseIdx_map]
  | layout record map index part =>
      cases there : o.lives[index]? with
      | none => exact perform_outlined_missing rfl there surface
      | some life =>
          let offset := Single.ofNat part * d.config.partHeight
          have inside : index < o.lives.length := (List.getElem?_eq_some_iff.mp there).1
          have placed := Page.layoutAt_builtin (d.pageOf_renderers life) offset record map
          have laid := d.setPage_outlined there (.layout record map part)
          -- nobody is told, so the page is laid out as it is
          rw [perform_layout (d.getElem?_outlined there), d.announce_outlined silent]
          constructor
          · rw [Document.answer, Outline.answerAt_some _ there, d.pageOf_extend]
            change Answer.of .placed (((d.pageOf life).layoutAt offset record map).1.mapError _) = _
            rw [placed]
            rfl
          · simp only [Outline.perform, if_pos inside]
            exact congrArg (fun document => { document with offset }) laid
  | load map index =>
      cases there : o.lives[index]? with
      | none => exact perform_outlined_missing rfl there surface
      | some life =>
          rw [perform_load (d.getElem?_outlined there)]
          refine ⟨?_, d.setPage_outlined there (.load map)⟩
          rw [Document.answer, Outline.answerAt_some _ there, ← d.pageOf_renderers life]
          rfl
  | editFrame index item edit =>
      exact ⟨rfl, (d.outlined_befall o index (.editFrame item edit)).symm⟩
  | drawPage index =>
      cases there : o.lives[index]? with
      | none => exact perform_outlined_missing rfl there surface
      | some life =>
          rw [perform_drawPage (d.getElem?_outlined there)]
          exact ⟨(o.answerAt_some (fun _ => .done) there).symm, d.setPage_outlined there .drawn⟩
  | draw =>
      refine ⟨rfl, ?_⟩
      rw [perform, Document.draw_eq]
      simp only [Outline.perform, Document.outlined, List.map_map, Function.comp_def,
        d.pageOf_extend]
      rfl

/-! ### Histories -/

theorem run_outlined (silent : d.observer = .silent) (o : Outline) (surface : List DrawOp)
    (calls : List Call) : (run ⟨d.outlined o, surface⟩ calls).2.document =
      d.outlined (calls.foldl (Outline.perform d.config.partHeight) o) := by
  induction calls generalizing o surface with
  | nil => rfl
  | cons call calls ih =>
      have first := (perform_outlined silent o surface call).2
      rcases h : (perform ⟨d.outlined o, surface⟩ call).2 with ⟨document, written⟩
      rw [h] at first
      obtain rfl : document = _ := first
      rw [run_cons, h]
      exact ih _ written

/-- After any history, a document without an observer is a list of pages that do not know of each
    other. An insertion puts a page of the given size, or of the default size of the time, in front
    of the page at the index or at the end; a removal takes the page at the index away and gives it.
    Each page is what its size and the layouts, loads, edits and drawings have made of it that were
    addressed to it at the index that it had. A call that cannot do without a page is refused if and
    only if its index is not below the number of pages, and then nothing changes at all. -/
theorem run_lives (config : DocumentConfig) (layoutConfig : LayoutConfig) (services : Services)
    (notes : σ) (surface : List DrawOp) (calls : List Call) :
    let d : Document σ := .new config layoutConfig services .silent notes
    let s := (run ⟨d, surface⟩ calls).2
    let o := Outline.after config calls
    s.document = d.outlined o ∧
    ∀ call, (s.perform call).1 = d.answer o call ∧
      ∀ index, call.page? = some index →
        (∀ cause, (s.perform call).1 = .refused cause ↔
          cause = .pageOutOfRange index s.document.pages.length ∧
            s.document.pages.length ≤ index) ∧
        (s.document.pages.length ≤ index → (s.perform call).2 = s) := by
  intro d s o
  have reached : s.document = d.outlined o :=
    run_outlined (d := d) rfl ⟨config.defaultPageSize, [], 0.0⟩ surface calls
  have count : s.document.pages.length = o.lives.length := by
    rw [reached, d.length_outlined]
  refine ⟨reached, fun call => ?_⟩
  have answer : (s.perform call).1 = d.answer o call := by
    have answered := (perform_outlined (d := d) rfl o s.surface call).1
    rwa [← reached] at answered
  refine ⟨answer, fun index addressed => ⟨fun cause => ?_, fun beyond => ?_⟩⟩
  · rw [answer, count]
    exact d.answer_refused addressed cause
  · rw [perform_refused addressed (List.getElem?_eq_none_iff.mpr beyond)]

end Session

/-- A page is laid out on, then moved by another page in front of it, and alone in the end. -/
def Call.shifting (map : Node) : List Call :=
  [.insertDefaultPage 7, .layout .null map 0 2, .insertPage 0 .a5, .load map 1, .removePage 0]

theorem Session.run_lives_shifted :
    let map : Node := ⟨"Text", .empty, [], "a"⟩
    let d : Document Unit := .new .default .default .default .silent ()
    let s := (run ⟨d, []⟩ (Call.shifting map)).2
    s.document.pages = [d.pageOf ⟨.a4, [.layout .null map 2, .load map]⟩] ∧
    s.perform (.drawPage 1) = (.refused (.pageOutOfRange 1 1), s) := by
  intro map d s
  obtain ⟨reached, answers⟩ :=
    run_lives .default .default .default () [] (Call.shifting map)
  have pages : s.document.pages = [d.pageOf ⟨.a4, [.layout .null map 2, .load map]⟩] :=
    congrArg Document.pages reached
  have count : s.document.pages.length = 1 := by rw [pages]; rfl
  obtain ⟨-, missing⟩ := answers (.drawPage 1)
  obtain ⟨refused, unchanged⟩ := missing 1 rfl
  have beyond : s.document.pages.length ≤ 1 := Nat.le_of_eq count
  refine ⟨pages, Prod.ext ((refused _).mpr ⟨?_, beyond⟩) (unchanged beyond)⟩
  rw [count]

end PageMap
