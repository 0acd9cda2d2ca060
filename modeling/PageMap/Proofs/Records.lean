import PageMap.Proofs.Pages
/-! # Records do not see each other

A run lays out one record after the other and leaves the pages of `Pipeline.pagesOf` behind, unless
a record crashes it. A run that also keeps the items of each record apart shows that a record is laid
out in the same way whatever the others are: `Pipeline.records_independent`.
-/

namespace PageMap

/-! ### The last page of a document -/

namespace Document

variable {σ : Type} {d : Document σ} {done : List Page} {last : Page} {index : Nat}

theorem page_last (pages : d.pages = done ++ [last]) (here : done.length = index) :
    d.page index = .ok last := by
  subst here
  simp only [page, pages, List.getElem?_concat_length]

theorem setPage_last (pages : d.pages = done ++ [last]) (here : done.length = index)
    (page : Page) : d.setPage index page = { d with pages := done ++ [page] } := by
  subst here
  simp only [setPage, pages, List.set_append_right _ _ (Nat.le_refl _), Nat.sub_self,
    List.set_cons_zero]

theorem load_last (pages : d.pages = done ++ [last]) (here : done.length = index) (map : Node) :
    (d.load map index).map (·.2) = .ok { d with pages := done ++ [(last.load map).2] } := by
  rw [load, page_last pages here]
  exact congrArg Except.ok (setPage_last pages here _)

theorem insertDefaultPage_last (silent : d.observer = .silent) (here : d.pages.length = index) :
    d.insertDefaultPage index = { d with
      pages := d.pages ++ [.new d.config.defaultPageSize d.layoutConfig d.services] } := by
  subst here
  simp only [insertDefaultPage, insertPage, silent, Observer.silent, Nat.min_self,
    List.insertIdx_length_self]

theorem announce_silent (silent : d.observer = .silent) (page : Page) :
    d.announce index page = (page, d.notes) := by
  simp only [announce, silent, Observer.silent, ite_self]

theorem layout_last (silent : d.observer = .silent) (pages : d.pages = done ++ [last])
    (here : done.length = index) (record : Json) (map : Node) (part : Nat) :
    d.layout record map index part =
      let offset := Single.ofNat part * d.config.partHeight
      let (result, page) :=
        { last with builder := { last.builder with offset } }.layout map record
      (result.mapError .layout, { d with pages := done ++ [page], offset }) := by
  simp only [layout, page_last pages here, announce_silent silent, setPage_last pages here]

theorem crashes_last (silent : d.observer = .silent) (pages : d.pages = done ++ [last])
    (here : done.length = index) (record : Json) (map : Node) (part : Nat) :
    d.crashes record map index part =
      { last.builder with offset := Single.ofNat part * d.config.partHeight }.crashes map record := by
  simp only [crashes, page_last pages here, announce_silent silent]

end Document

/-! ### Runs -/

namespace Pipeline

variable {σ : Type} (p : Pipeline σ)

def after (notes : σ) (records : List Json) (offset : Single) : Document σ :=
  { p.start notes with pages := p.pagesOf records, offset }

/-- The document when the page for a further record is there. -/
def turned (notes : σ) (records : List Json) (offset : Single) : Document σ :=
  { p.start notes with
    pages := p.firstPages records (p.pageAt records.length) ++ [p.openPage records]
    offset }

theorem turnPage_after (silent : p.observer = .silent) (notes : σ) (records : List Json)
    (offset : Single) :
    p.turnPage (p.after notes records offset) (p.pageAt records.length) =
      .ok (p.turned notes records offset) := by
  have count := p.length_firstPages records (p.pageAt records.length)
  -- a new page is inserted just when the part of the record is the first one
  by_cases full : p.partAt records.length = 0
  · have pages : (p.after notes records offset).pages =
        p.firstPages records (p.pageAt records.length) := p.pagesOf_full records full
    have length : (p.after notes records offset).pages.length = p.pageAt records.length := by
      rw [pages, count]
    have inserted := Document.insertDefaultPage_last silent length
    rw [turnPage, if_pos length.symm, inserted, pages, turned, openPage_full p records full,
      freshPage]
    cases p.constants with
    | none => rfl
    | some constants => exact Document.load_last rfl count constants
  · have pages := p.pagesOf_open records full
    have length : (p.after notes records offset).pages.length = p.pageAt records.length + 1 := by
      simp only [after, pages, List.length_append, count, List.length_singleton]
    rw [turnPage, if_neg (by omega), after, pages, turned]

/-- Lays out the record of a number and gives its items. -/
def placeKeeping (d : Document σ) (number : Nat) (record : Json) :
    Except DocumentError (List Item × Document σ) := do
  let d ← p.turnPage d (p.pageAt number)
  let (result, d) := d.layout record p.map (p.pageAt number) (p.partAt number)
  result.map fun items => (items, d)

/-- Lays out records from a number on and gives the items of each. -/
def placeEach (p : Pipeline σ) (d : Document σ) (number : Nat) :
    List Json → Except DocumentError (List (List Item) × Document σ)
  | [] => .ok ([], d)
  | record :: records => do
      let (items, d) ← p.placeKeeping d number record
      let (others, d) ← p.placeEach d (number + 1) records
      return (items :: others, d)

section Steps

variable {p} (silent : p.observer = .silent) (notes : σ) (records : List Json) (offset : Single)
  (record : Json)

include silent

theorem layout_turned : (p.turned notes records offset).layout record p.map
    (p.pageAt records.length) (p.partAt records.length) =
      (.ok (p.recordItems records.length record),
        p.after notes (records ++ [record]) (p.partOffset (p.partAt records.length))) := by
  have laid := p.layPart_eq (p.openPage_bears records) record
  have placed : (p.turned notes records offset).layout record p.map (p.pageAt records.length)
      (p.partAt records.length) =
      ((p.layPart (p.openPage records) (p.partAt records.length) record).1.mapError .layout,
        p.after notes (records ++ [record]) (p.partOffset (p.partAt records.length))) := by
    rw [after, pagesOf_concat]
    exact Document.layout_last silent rfl (p.length_firstPages records _) record p.map _
  rw [placed, laid]
  rfl

theorem placeKeeping_after : p.placeKeeping (p.after notes records offset) records.length record =
    .ok (p.recordItems records.length record,
      p.after notes (records ++ [record]) (p.partOffset (p.partAt records.length))) := by
  rw [placeKeeping, turnPage_after p silent]
  simp only [bind, Except.bind]
  rw [layout_turned silent]
  rfl

theorem place_after : p.place (p.after notes records offset) records.length record =
    if p.partCrashes (p.openPage records) (p.partAt records.length) record then
      .error BuildError.crash
    else .ok (p.after notes (records ++ [record]) (p.partOffset (p.partAt records.length))) := by
  have turned : (p.turnPage (p.after notes records offset) (p.pageAt records.length)).mapError
      BuildError.document = .ok (p.turned notes records offset) := by
    rw [turnPage_after p silent]
    rfl
  have crashes : (p.turned notes records offset).crashes record p.map (p.pageAt records.length)
      (p.partAt records.length) =
        p.partCrashes (p.openPage records) (p.partAt records.length) record :=
    Document.crashes_last silent rfl (p.length_firstPages records _) record p.map _
  have laid := layout_turned silent notes records offset record
  rw [← crashes]
  rw [pageAt] at turned laid ⊢
  rw [partAt] at laid ⊢
  rw [place, turned]
  simp only [bind, Except.bind]
  rw [laid]
  split <;> rfl

end Steps

/-- Laying out further records comes to one that crashes. -/
def crashesFrom (p : Pipeline σ) (done : List Json) : List Json → Bool
  | [] => false
  | record :: rest =>
      p.partCrashes (p.openPage done) (p.partAt done.length) record ||
        p.crashesFrom (done ++ [record]) rest

theorem crashesFrom_iff {done rest : List Json} : p.crashesFrom done rest = true ↔
    ∃ i record, rest[i]? = some record ∧
      p.partCrashes (p.openPage (done ++ rest.take i)) (p.partAt (done.length + i)) record = true := by
  induction rest generalizing done with
  | nil => simp [crashesFrom]
  | cons record rest ih =>
      rw [crashesFrom, Bool.or_eq_true, ih]
      constructor
      · rintro (first | ⟨i, later, there, crashed⟩)
        · exact ⟨0, record, rfl, by simpa using first⟩
        · refine ⟨i + 1, later, there, ?_⟩
          simpa [Nat.add_assoc, Nat.add_comm 1] using crashed
      · rintro ⟨i, later, there, crashed⟩
        cases i with
        | zero =>
            obtain rfl := Option.some.inj there
            exact .inl (by simpa using crashed)
        | succ i =>
            refine .inr ⟨i, later, there, ?_⟩
            simpa [Nat.add_assoc, Nat.add_comm 1] using crashed

/-- A run over further records makes their items and leaves the pages for all records behind. It
    does not come to that if one of them crashes. -/
theorem placed_after (silent : p.observer = .silent) (notes : σ) (done : List Json)
    (offset : Single) (rest : List Json) :
    ∃ last, p.placeEach (p.after notes done offset) done.length rest =
        .ok (rest.mapIdx fun i record => p.recordItems (done.length + i) record,
          p.after notes (done ++ rest) last) ∧
      p.placeFrom (p.after notes done offset) done.length rest =
        if p.crashesFrom done rest then .error .crash
        else .ok (p.after notes (done ++ rest) last) := by
  induction rest generalizing done offset with
  | nil => exact ⟨offset, by simp [placeEach], by simp [placeFrom, crashesFrom]⟩
  | cons record rest ih =>
      -- the document after the first record is again one that `after` describes
      obtain ⟨last, each, others⟩ := ih (done ++ [record]) (p.partOffset (p.partAt done.length))
      rw [List.length_append, List.length_singleton] at each others
      refine ⟨last, ?_, ?_⟩
      · rw [placeEach, placeKeeping_after silent]
        simp only [bind, Except.bind, each]
        simp only [pure, Except.pure, List.mapIdx_cons, Nat.add_zero, Nat.add_assoc, Nat.add_comm 1,
          List.append_assoc, List.singleton_append]
      · rw [placeFrom, place_after silent, crashesFrom]
        cases p.partCrashes (p.openPage done) (p.partAt done.length) record with
        | true => rfl
        | false =>
            simp only [Bool.false_or, Bool.false_eq_true, if_false, bind, Except.bind]
            simpa using others

/-- No record is ever refused, and only a crash keeps a document from being generated. -/
theorem placed_start (silent : p.observer = .silent) (notes : σ) (records : List Json) :
    ∃ last, p.placeEach (p.start notes) 0 records =
        .ok (records.mapIdx p.recordItems, p.after notes records last) ∧
      p.generate notes records =
        if p.crashesFrom [] records then .error .crash else .ok (p.after notes records last) := by
  have start : p.start notes = p.after notes [] 0.0 := by
    rw [after, pagesOf_nil]
    rfl
  obtain ⟨last, each, placed⟩ := p.placed_after silent notes [] 0.0 records
  refine ⟨last, ?_, ?_⟩
  · rw [start]
    simpa using each
  · rw [generate, start]
    simpa using placed

theorem items_pagesOf_concat (records : List Json) (record : Json) :
    (p.pagesOf (records ++ [record])).flatMap Page.items =
      (p.pagesOf records).flatMap Page.items ++ p.recordItems records.length record := by
  have laid : (p.layPart (p.openPage records) (p.partAt records.length) record).2.items =
      (p.openPage records).items ++ p.recordItems records.length record := by
    rw [p.layPart_eq (p.openPage_bears records) record]
    rfl
  rw [pagesOf_concat, List.flatMap_append, List.flatMap_singleton, laid, ← List.append_assoc]
  congr 1
  by_cases full : p.partAt records.length = 0
  · have none_yet : p.freshPage.items = [] := by
      rw [Page.items, p.freshPage_bears]
      rfl
    rw [pagesOf_full p records full, openPage_full p records full, none_yet, List.append_nil]
  · rw [pagesOf_open p records full, List.flatMap_append, List.flatMap_singleton]

/-- The pages hold the items of all records in order, and no others. -/
theorem items_pagesOf (done rest : List Json) :
    (p.pagesOf (done ++ rest)).flatMap Page.items = (p.pagesOf done).flatMap Page.items ++
      (rest.mapIdx fun i record => p.recordItems (done.length + i) record).flatten := by
  induction rest generalizing done with
  | nil => simp
  | cons record rest ih =>
      have next := ih (done ++ [record])
      rw [items_pagesOf_concat, List.append_assoc, List.singleton_append, List.length_append,
        List.length_singleton] at next
      rw [next, List.mapIdx_cons, List.flatten_cons, List.append_assoc]
      simp only [Nat.add_assoc, Nat.add_comm 1, Nat.add_zero]

/-- Generating a document makes these items for the records, a list for each of them, and the pages
    hold all of them in order. The document is given back unless a record crashes. -/
structure Makes (notes : σ) (records : List Json) (made : List (List Item)) : Prop where
  length : made.length = records.length
  placed : ∃ d, p.placeEach (p.start notes) 0 records = .ok (made, d) ∧
    p.generate notes records = (if p.crashesFrom [] records then .error .crash else .ok d) ∧
    d.pages.flatMap Page.items = made.flatten

theorem makes_recordItems (silent : p.observer = .silent) (notes : σ) (records : List Json) :
    p.Makes notes records (records.mapIdx p.recordItems) where
  length := List.length_mapIdx
  placed := by
    obtain ⟨last, placed, generated⟩ := p.placed_start silent notes records
    refine ⟨_, placed, generated, ?_⟩
    have items := p.items_pagesOf [] records
    simpa [after, pagesOf_nil] using items

/-- What the other records are makes no difference to a record: two runs over records that agree at
    a position make the same items there. -/
theorem records_independent (silent : p.observer = .silent) (notes notes' : σ)
    {records records' : List Json} {i : Nat} {record : Json} (here : records[i]? = some record)
    (there : records'[i]? = some record) :
    ∃ made made' items, p.Makes notes records made ∧ p.Makes notes' records' made' ∧
      made[i]? = some items ∧ made'[i]? = some items := by
  refine ⟨_, _, p.recordItems i record, p.makes_recordItems silent notes records,
    p.makes_recordItems silent notes' records', ?_, ?_⟩
  · rw [List.getElem?_mapIdx, here]
    rfl
  · rw [List.getElem?_mapIdx, there]
    rfl

/-- A pipeline that shows a field of two records on each page. -/
def twoNames : Pipeline Unit where
  map := ⟨"Property", ⟨[("Path", "name")], by decide⟩, [], ""⟩
  constants := none
  config := { PipelineConfig.default with recordsPerPage := 2 }
  layoutConfig := .default
  services := .default
  observer := .silent
  recordsPerPage_ne_zero := by decide

theorem records_independent_second :
    ∃ made made' items,
      twoNames.Makes () [.null, .object [("name", .string "a")]] made ∧
      twoNames.Makes () [.object [("name", .string "b")], .object [("name", .string "a")]] made' ∧
      made[1]? = some items ∧ made'[1]? = some items :=
  twoNames.records_independent rfl () () rfl rfl

end Pipeline

end PageMap
