import Mathlib.Data.List.Nodup
import Mathlib.Data.List.InsertIdx
import Mathlib.Data.List.Lattice
import PageMap.Proofs.History
/-! # What observers are told

An observer is told of a page when it comes into being, and again when something is about to be laid
out on it for the first time. Whether that has happened is known to the page alone, and the index of
the page changes as others come and go. This file numbers pages in the order of their insertion and
says what is told of each of them, from the calls and not from what the pages know.
-/

namespace PageMap

/-- Something that an observer is told. -/
inductive Notice where
  | created (page : Page)
  | beforeLayout (index : Nat) (page : Page)

namespace Observer

variable {σ : Type}

/-- The observer, with a record of what it was told. -/
def recording (o : Observer σ) : Observer (σ × List Notice) where
  pageCreated page notes :=
    let (changed, own) := o.pageCreated page notes.1
    (changed, own, notes.2 ++ [.created page])
  beforeLayout index page notes :=
    let (changed, own) := o.beforeLayout index page notes.1
    (changed, own, notes.2 ++ [.beforeLayout index page])

/-- An observer may change a new page, but it lays out nothing on it. -/
def Observes (o : Observer σ) : Prop :=
  ∀ page notes, (o.pageCreated page notes).1.laidOut = page.laidOut

end Observer

/-! ### Pages by number -/

/-- The pages of a history, by number. -/
@[ext]
structure Roster where
  /-- How many pages were inserted. -/
  count : Nat
  /-- The pages that are there, from front to back. -/
  standing : List Nat
  /-- The pages that a layout was addressed to. -/
  laid : List Nat
  distinct : standing.Nodup
  standing_lt : ∀ number ∈ standing, number < count
  laid_lt : ∀ number ∈ laid, number < count

namespace Roster

def empty : Roster where
  count := 0
  standing := []
  laid := []
  distinct := List.nodup_nil
  standing_lt := nofun
  laid_lt := nofun

theorem lt_of_standing (r : Roster) {index number : Nat}
    (there : r.standing[index]? = some number) : number < r.count :=
  r.standing_lt number (List.mem_of_getElem? there)

/-- Puts a page with a new number at an index, or at the end if the index is beyond it. -/
def insert (r : Roster) (index : Nat) : Roster where
  count := r.count + 1
  standing := r.standing.insertIdx (min index r.standing.length) r.count
  laid := r.laid
  distinct := by
    have new : r.count ∉ r.standing := fun member => Nat.lt_irrefl _ (r.standing_lt _ member)
    rw [(List.perm_insertIdx _ _ (Nat.min_le_right ..)).nodup_iff]
    exact List.nodup_cons.mpr ⟨new, r.distinct⟩
  standing_lt := by
    intro number member
    rcases (List.mem_insertIdx (Nat.min_le_right ..)).mp member with rfl | old
    · exact Nat.lt_succ_self _
    · exact Nat.lt_succ_of_lt (r.standing_lt number old)
  laid_lt number member := Nat.lt_succ_of_lt (r.laid_lt number member)

def remove (r : Roster) (index : Nat) : Roster where
  count := r.count
  standing := r.standing.eraseIdx index
  laid := r.laid
  distinct := r.distinct.eraseIdx index
  standing_lt number member := r.standing_lt number (List.mem_of_mem_eraseIdx member)
  laid_lt := r.laid_lt

/-- Notes that a layout was addressed to the page at an index, if there is one. -/
def lay (r : Roster) (index : Nat) : Roster where
  count := r.count
  standing := r.standing
  laid := r.standing[index]?.toList ∪ r.laid
  distinct := r.distinct
  standing_lt := r.standing_lt
  laid_lt := by
    intro number member
    rcases List.mem_union_iff.mp member with new | old
    · exact r.lt_of_standing (Option.mem_toList.mp new)
    · exact r.laid_lt number old

theorem mem_lay {r : Roster} {index number : Nat} :
    number ∈ (r.lay index).laid ↔ r.standing[index]? = some number ∨ number ∈ r.laid := by
  simp only [lay, List.mem_union_iff, Option.mem_toList]

theorem lay_eq_self {r : Roster} {index : Nat}
    (before : ∀ number, r.standing[index]? = some number → number ∈ r.laid) : r.lay index = r := by
  have known : r.standing[index]?.toList ⊆ r.laid := fun number member =>
    before number (Option.mem_toList.mp member)
  exact Roster.ext rfl rfl (List.Subset.union_eq_right known)

theorem remove_eq_self {r : Roster} {index : Nat} (missing : r.standing[index]? = none) :
    r.remove index = r :=
  Roster.ext rfl (List.eraseIdx_of_length_le (List.getElem?_eq_none_iff.mp missing)) rfl

def perform (r : Roster) : Call → Roster
  | .insertPage index _ | .insertDefaultPage index => r.insert index
  | .removePage index => r.remove index
  | .layout _ _ index _ => r.lay index
  | .setDefaultPageSize _ | .load .. | .editFrame .. | .drawPage _ | .draw => r

/-- The roster after some calls. -/
def after (calls : List Call) : Roster :=
  calls.foldl perform empty

variable {σ : Type}

/-- What a call tells, and of which page. An insertion tells of the page that it inserts. A layout
    tells of the page at its index if it is the first that is addressed to that page. -/
def told (r : Roster) (d : Document σ) : Call → List (Nat × Notice)
  | .insertPage _ size => [(r.count, .created (.new size d.layoutConfig d.services))]
  | .insertDefaultPage _ =>
      [(r.count, .created (.new d.config.defaultPageSize d.layoutConfig d.services))]
  | .layout _ _ index _ =>
      match r.standing[index]?, d.pages[index]? with
      | some number, some page =>
          if number ∈ r.laid then [] else [(number, .beforeLayout index page)]
      | _, _ => []
  | .setDefaultPageSize _ | .removePage _ | .load .. | .editFrame .. | .drawPage _ | .draw => []

end Roster

/-- What calls tell, one after the other. -/
def Session.told {σ : Type} (s : Session σ) (r : Roster) : List Call → List (Nat × Notice)
  | [] => []
  | call :: calls =>
      r.told s.document call ++ (s.perform call).2.told (r.perform call) calls

/-! ### What is told of one page -/

/-- Nothing has happened to a page. -/
def Page.IsNew (p : Page) : Prop :=
  ∃ size config services, p = .new size config services

namespace Notice

/-- The part that is about one page. -/
def about (number : Nat) (told : List (Nat × Notice)) : List Notice :=
  told.filterMap fun (other, notice) => if other = number then some notice else none

theorem about_append (number : Nat) (told more : List (Nat × Notice)) :
    about number (told ++ more) = about number told ++ about number more :=
  List.filterMap_append

theorem about_self (number : Nat) (notice : Notice) :
    about number [(number, notice)] = [notice] := by
  simp only [about, List.filterMap_cons, List.filterMap_nil, if_true]

theorem about_other {number other : Nat} (different : other ≠ number) (notice : Notice) :
    about number [(other, notice)] = [] := by
  simp only [about, List.filterMap_cons, List.filterMap_nil, if_neg different]

end Notice

open Notice (about about_append about_self about_other)

/-- Of each page that was inserted it was told once that it exists, when nothing had happened to it.
    If a layout was addressed to it, it was told after that, and once, that it is about to be laid
    out, when nothing had been laid out on it. Nothing else was told. -/
structure Roster.Accounts (r : Roster) (told : List (Nat × Notice)) : Prop where
  absent : ∀ number, r.count ≤ number → about number told = []
  waiting : ∀ number < r.count, number ∉ r.laid →
    ∃ page, page.IsNew ∧ about number told = [.created page]
  laid : ∀ number ∈ r.laid, ∃ page index before, page.IsNew ∧ before.laidOut = false ∧
    about number told = [.created page, .beforeLayout index before]

namespace Roster.Accounts

variable {r : Roster} {told : List (Nat × Notice)}

theorem empty : Roster.empty.Accounts [] where
  absent _ _ := rfl
  waiting _ inserted := absurd inserted (Nat.not_lt_zero _)
  laid _ member := absurd member List.not_mem_nil

theorem insert (accounts : r.Accounts told) (index : Nat) {page : Page} (new : page.IsNew) :
    (r.insert index).Accounts (told ++ [(r.count, .created page)]) where
  absent := by
    intro number later
    have later : r.count < number := later
    rw [about_append, accounts.absent number (by omega), about_other (by omega), List.append_nil]
  waiting := by
    intro number inserted unlaid
    have inserted : number < r.count + 1 := inserted
    by_cases same : r.count = number
    · subst same
      refine ⟨page, new, ?_⟩
      rw [about_append, accounts.absent _ (Nat.le_refl _), about_self, List.nil_append]
    · obtain ⟨old, created, known⟩ := accounts.waiting number (by omega) unlaid
      refine ⟨old, created, ?_⟩
      rw [about_append, known, about_other same, List.append_nil]
  laid := by
    intro number member
    have old : number < r.count := r.laid_lt number member
    rw [about_append, about_other (by omega), List.append_nil]
    exact accounts.laid number member

theorem lay_first (accounts : r.Accounts told) {index number : Nat}
    (there : r.standing[index]? = some number) (first : number ∉ r.laid) {page : Page}
    (untouched : page.laidOut = false) :
    (r.lay index).Accounts (told ++ [(number, .beforeLayout index page)]) where
  absent := by
    intro other later
    have inserted := r.lt_of_standing there
    have later : r.count ≤ other := later
    rw [about_append, accounts.absent other later, about_other (by omega), List.append_nil]
  waiting := by
    intro other inserted unlaid
    rw [mem_lay, there, not_or] at unlaid
    have different : number ≠ other := fun same => unlaid.1 (congrArg some same)
    obtain ⟨old, created, known⟩ := accounts.waiting other inserted unlaid.2
    refine ⟨old, created, ?_⟩
    rw [about_append, known, about_other different, List.append_nil]
  laid := by
    intro other member
    by_cases same : number = other
    · subst same
      obtain ⟨old, created, known⟩ := accounts.waiting number (r.lt_of_standing there) first
      refine ⟨old, index, page, created, untouched, ?_⟩
      rw [about_append, known, about_self]
      rfl
    · rw [mem_lay, there, Option.some.injEq] at member
      rw [about_append, about_other same, List.append_nil]
      exact accounts.laid other (member.resolve_left same)

end Roster.Accounts

/-! ### One call -/

/-- Whether a layout was addressed to each of the pages that are there. -/
def Roster.flags (r : Roster) : List Bool :=
  r.standing.map fun number => decide (number ∈ r.laid)

namespace Roster

variable (r : Roster) (index : Nat)

theorem flags_insert : (r.insert index).flags =
    r.flags.insertIdx (min index r.standing.length) false := by
  have new : decide (r.count ∈ r.laid) = false :=
    decide_eq_false fun member => Nat.lt_irrefl _ (r.laid_lt _ member)
  rw [← new]
  exact List.map_insertIdx ..

theorem flags_remove : (r.remove index).flags = r.flags.eraseIdx index :=
  (List.eraseIdx_map ..).symm

theorem flags_lay : (r.lay index).flags = r.flags.set index true := by
  have standing : (r.lay index).standing = r.standing := rfl
  apply List.ext_getElem?
  intro i
  simp only [flags, standing, List.getElem?_set, List.getElem?_map, List.length_map, mem_lay]
  cases there : r.standing[i]? with
  | none =>
      have beyond := List.getElem?_eq_none_iff.mp there
      simp only [Option.map_none]
      grind
  | some number =>
      have inside := (List.getElem?_eq_some_iff.mp there).1
      by_cases same : index = i
      · subst same
        simp only [there, inside, true_or, decide_true, Option.map_some, if_true]
      · -- no page stands at two indices
        have elsewhere : r.standing[index]? ≠ some number := fun also =>
          same ((List.getElem?_inj inside r.distinct).mp (there.trans also.symm)).symm
        simp only [elsewhere, false_or, Option.map_some, if_neg same]

end Roster

/-- A document with a record of what was told, and the roster of its pages. -/
structure Document.Follows {σ : Type} (o : Observer σ) (r : Roster)
    (told : List (Nat × Notice)) (d : Document (σ × List Notice)) : Prop where
  observer : d.observer = o.recording
  record : d.notes.2 = told.map Prod.snd
  flags : d.pages.map Page.laidOut = r.flags
  accounts : r.Accounts told

namespace Document.Follows

variable {σ : Type} {o : Observer σ} {r : Roster} {told : List (Nat × Notice)}
  {d changed : Document (σ × List Notice)} {index : Nat} {page : Page}

theorem length_pages (follows : d.Follows o r told) : d.pages.length = r.standing.length := by
  have lengths := congrArg List.length follows.flags
  rwa [List.length_map, Roster.flags, List.length_map] at lengths

theorem laidOut (follows : d.Follows o r told) (there : d.pages[index]? = some page) {number : Nat}
    (standing : r.standing[index]? = some number) : page.laidOut = decide (number ∈ r.laid) := by
  have flag := congrArg (·[index]?) follows.flags
  simpa only [Roster.flags, List.getElem?_map, there, standing, Option.map_some,
    Option.some.injEq] using flag

/-- Nobody is told of what leaves the flags of the pages as they are. -/
theorem unchanged (follows : d.Follows o r told) (observer : changed.observer = d.observer)
    (notes : changed.notes = d.notes)
    (flags : changed.pages.map Page.laidOut = d.pages.map Page.laidOut) :
    changed.Follows o r told where
  observer := observer.trans follows.observer
  record := by rw [notes, follows.record]
  flags := flags.trans follows.flags
  accounts := follows.accounts

theorem setPage (follows : d.Follows o r told) (there : d.pages[index]? = some page) {other : Page}
    (same : other.laidOut = page.laidOut) : (d.setPage index other).Follows o r told := by
  refine follows.unchanged rfl rfl ?_
  apply List.ext_getElem?
  intro i
  simp only [Document.setPage, List.getElem?_map, List.getElem?_set]
  grind

theorem insertPage (observes : o.Observes) (follows : d.Follows o r told) (index : Nat)
    (size : PageSize) : (d.insertPage index size).Follows o (r.insert index)
      (told ++ [(r.count, .created (.new size d.layoutConfig d.services))]) where
  observer := follows.observer
  record := by
    simp only [Document.insertPage, follows.observer, Observer.recording, follows.record,
      List.map_append, List.map_cons, List.map_nil]
  flags := by
    have new : (o.pageCreated (.new size d.layoutConfig d.services) d.notes.1).1.laidOut = false :=
      observes _ _
    simp only [Document.insertPage, follows.observer, Observer.recording, List.map_insertIdx, new,
      follows.flags, follows.length_pages, r.flags_insert]
  accounts := follows.accounts.insert index ⟨_, _, _, rfl⟩

theorem removePage (follows : d.Follows o r told) (index : Nat) :
    { d with pages := d.pages.eraseIdx index }.Follows o (r.remove index) told where
  observer := follows.observer
  record := follows.record
  flags := by rw [← List.eraseIdx_map, follows.flags, r.flags_remove]
  accounts := ⟨follows.accounts.absent, follows.accounts.waiting, follows.accounts.laid⟩

end Document.Follows

namespace Session

variable {σ : Type} {o : Observer σ} {r : Roster} {told : List (Nat × Notice)}
  {s : Session (σ × List Notice)} {index : Nat}

/-- A call that is refused tells nothing. -/
theorem refused_follows (follows : s.document.Follows o r told) {call : Call}
    (addressed : call.page? = some index) (missing : s.document.pages[index]? = none) :
    (s.perform call).2.document.Follows o (r.perform call) (told ++ r.told s.document call) := by
  have absent : r.standing[index]? = none := by
    rw [List.getElem?_eq_none_iff] at missing ⊢
    exact follows.length_pages ▸ missing
  rw [perform_refused addressed missing]
  cases call with
  | insertPage | insertDefaultPage | setDefaultPageSize | editFrame | draw => cases addressed
  | load | drawPage => simpa only [Roster.perform, Roster.told, List.append_nil] using follows
  | removePage =>
      cases addressed
      simpa only [Roster.perform, Roster.told, List.append_nil, Roster.remove_eq_self absent]
        using follows
  | layout =>
      cases addressed
      have nobody : r.lay index = r := Roster.lay_eq_self fun number standing => by
        cases absent.symm.trans standing
      simpa only [Roster.perform, Roster.told, absent, List.append_nil, nobody] using follows

section InRange

variable {page : Page} {number : Nat} (there : s.document.pages[index]? = some page)
  (standing : r.standing[index]? = some number)

include there standing

theorem announce_follows (follows : s.document.Follows o r told) :
    s.document.announce index page =
      if number ∈ r.laid then (page, s.document.notes)
      else o.recording.beforeLayout index page s.document.notes := by
  simp only [Document.announce, follows.laidOut there standing, follows.observer, decide_eq_true_eq]

/-- The first layout of a page tells of it, with success or without. -/
theorem layout_first_follows (follows : s.document.Follows o r told) (first : number ∉ r.laid)
    (record : Json) (map : Node) (part : Nat) :
    (s.perform (.layout record map index part)).2.document.Follows o (r.lay index)
      (told ++ [(number, .beforeLayout index page)]) := by
  have fresh : page.laidOut = false := by
    rw [follows.laidOut there standing, decide_eq_false first]
  rw [perform_layout there, announce_follows there standing follows, if_neg first]
  refine ⟨follows.observer, ?_, ?_, follows.accounts.lay_first standing first fresh⟩
  · simp only [Observer.recording, follows.record, List.map_append, List.map_cons, List.map_nil]
  · rw [r.flags_lay, ← follows.flags]
    exact List.map_set

theorem layout_again_follows (follows : s.document.Follows o r told) (before : number ∈ r.laid)
    (record : Json) (map : Node) (part : Nat) :
    (s.perform (.layout record map index part)).2.document.Follows o (r.lay index) told := by
  have laid : page.laidOut = true := by
    rw [follows.laidOut there standing, decide_eq_true before]
  have known : r.lay index = r := Roster.lay_eq_self fun other also => by
    cases standing.symm.trans also
    exact before
  rw [perform_layout there, announce_follows there standing follows, if_pos before, known]
  exact (follows.setPage there laid.symm).unchanged rfl rfl rfl

end InRange

/-- A call tells what it should, and the roster goes on to be that of the document. -/
theorem perform_follows (observes : o.Observes) (follows : s.document.Follows o r told)
    (call : Call) : (s.perform call).2.document.Follows o (r.perform call)
      (told ++ r.told s.document call) := by
  cases call with
  | insertPage index size => exact follows.insertPage observes index size
  | insertDefaultPage index => exact follows.insertPage observes index _
  | setDefaultPageSize size =>
      rw [Roster.told, List.append_nil]
      exact follows.unchanged rfl rfl rfl
  | removePage index =>
      cases there : s.document.pages[index]? with
      | none => exact refused_follows follows rfl there
      | some page =>
          rw [perform_removePage there, Roster.told, List.append_nil]
          exact follows.removePage index
  | layout record map index part =>
      cases there : s.document.pages[index]? with
      | none => exact refused_follows follows rfl there
      | some page =>
          have inside : index < r.standing.length := by
            rw [← follows.length_pages]
            exact (List.getElem?_eq_some_iff.mp there).1
          have standing := List.getElem?_eq_getElem inside
          simp only [Roster.told, standing, there]
          by_cases before : r.standing[index] ∈ r.laid
          · rw [if_pos before, List.append_nil]
            exact layout_again_follows there standing follows before record map part
          · rw [if_neg before]
            exact layout_first_follows there standing follows before record map part
  | load map index =>
      cases there : s.document.pages[index]? with
      | none => exact refused_follows follows rfl there
      | some page =>
          rw [perform_load there, Roster.told, List.append_nil]
          exact follows.setPage there rfl
  | editFrame index item edit =>
      rw [Roster.told, List.append_nil]
      refine follows.unchanged rfl rfl ?_
      apply List.ext_getElem?
      intro i
      simp only [perform, Document.editFrame, List.getElem?_map, List.getElem?_modify]
      cases s.document.pages[i]? with
      | none => rfl
      | some page =>
          simp only [Option.map_some]
          split <;> rfl
  | drawPage index =>
      cases there : s.document.pages[index]? with
      | none => exact refused_follows follows rfl there
      | some page =>
          rw [perform_drawPage there, Roster.told, List.append_nil]
          exact follows.setPage there rfl
  | draw =>
      rw [Roster.told, List.append_nil]
      refine follows.unchanged rfl rfl ?_
      rw [perform, Document.draw_eq]
      exact List.map_map

/-! ### Histories -/

theorem run_follows (observes : o.Observes) (follows : s.document.Follows o r told)
    (calls : List Call) : (s.run calls).2.document.Follows o (calls.foldl Roster.perform r)
      (told ++ s.told r calls) := by
  induction calls generalizing s r told with
  | nil => simpa only [Session.told, List.append_nil, List.foldl_nil, run_nil] using follows
  | cons call calls ih =>
      have later := ih (perform_follows observes follows call)
      rwa [List.append_assoc] at later

/-- Over any history, an observer is told of a page when it is inserted, and again when a layout is
    addressed to it for the first time, with the index that the page has then. Each of the two is
    told once, and the second whether or not the layout succeeds. Other calls tell nothing, nor do
    calls that are refused for their index. A layout that is told of goes on with the page as the
    observer leaves it, any other layout with the page as it is. -/
theorem run_tells (observes : o.Observes) (config : DocumentConfig) (layoutConfig : LayoutConfig)
    (services : Services) (notes : σ) (surface : List DrawOp) (calls : List Call) :
    let s : Session (σ × List Notice) :=
      ⟨.new config layoutConfig services o.recording (notes, []), surface⟩
    let after := (s.run calls).2
    let r := Roster.after calls
    let told := s.told .empty calls
    after.document.notes.2 = told.map Prod.snd ∧ r.Accounts told ∧
    after.document.pages.length = r.standing.length ∧
    ∀ (index : Nat) (page : Page) (number : Nat), after.document.pages[index]? = some page →
      r.standing[index]? = some number → ∀ record map part,
        let ready := if number ∈ r.laid then page
          else (o.recording.beforeLayout index page after.document.notes).1
        let laid := ready.layoutAt (Single.ofNat part * after.document.config.partHeight) record map
        (after.perform (.layout record map index part)).1 = .of .placed (laid.1.mapError .layout) ∧
        (after.perform (.layout record map index part)).2.document.pages =
          after.document.pages.set index laid.2 := by
  intro s after r told
  have new : s.document.Follows o .empty [] := ⟨rfl, rfl, rfl, .empty⟩
  have follows : after.document.Follows o r told := run_follows observes new calls
  refine ⟨follows.record, follows.accounts, follows.length_pages, ?_⟩
  intro index page number there standing record map part ready laid
  have announced : (after.document.announce index page).1 = ready := by
    rw [announce_follows there standing follows]
    exact apply_ite Prod.fst _ _ _
  rw [perform_layout there]
  simp only [announced]
  exact ⟨rfl, rfl⟩

end Session

/-- Makes the elements of one tag name fail on every page. -/
def Observer.failing : Observer Unit where
  pageCreated page notes :=
    let fails : Renderer := { render := fun node _ _ => .error (.renderer node.name "never") }
    ({ page with builder := page.builder.register "Bad" fails }, notes)
  beforeLayout _ page notes := (page, notes)

def Answer.cause? : Answer → Option DocumentError
  | .refused cause => some cause
  | _ => none

def Notice.index? : Notice → Option Nat
  | .created _ => none
  | .beforeLayout index _ => some index

/-- The first layout of a page fails. The page is moved by another one in front of it before it is
    laid out again. -/
def Call.failing : List Call :=
  [.insertDefaultPage 0, .layout .null ⟨"Bad", .empty, [], ""⟩ 0 0, .insertDefaultPage 0,
    .layout .null ⟨"Text", .empty, [], "a"⟩ 1 0, .draw,
    .layout .null ⟨"Text", .empty, [], "b"⟩ 0 0, .layout .null ⟨"Text", .empty, [], "c"⟩ 2 0]

theorem Session.run_tells_failing :
    Observer.failing.Observes ∧
    let s : Session (Unit × List Notice) :=
      ⟨.new .default .default .default Observer.failing.recording ((), []), []⟩
    (s.run Call.failing).1.filterMap Answer.cause? =
      [.layout (.renderer "Bad" "never"), .pageOutOfRange 2 2] ∧
    (s.run Call.failing).2.document.notes.2.map Notice.index? = [none, some 0, none, some 0] ∧
    ∃ page index before,
      about 0 (s.told .empty Call.failing) = [.created page, .beforeLayout index before] := by
  have observes : Observer.failing.Observes := fun _ _ => rfl
  refine ⟨observes, ?_⟩
  intro s
  obtain ⟨record, accounts, -, -⟩ :=
    run_tells observes .default .default .default () [] Call.failing
  obtain ⟨page, index, before, -, -, known⟩ := accounts.laid 0 (by decide)
  refine ⟨by decide +kernel, ?_, page, index, before, known⟩
  rw [record]
  decide +kernel

end PageMap
