import Mathlib.Algebra.Order.Floor.Div
import PageMap.Proofs.Crash
import PageMap.Proofs.Records
/-! # Pagination

A pipeline that was made from proper settings, with an observer that changes nothing, turns every
list of records into a document, unless a record meets a font weight that crashes. Each page takes
its share of the records, in order and none twice, and what a page shows of a record is what laying
the record out on that page gives.
-/

namespace PageMap.Pipeline

variable {σ : Type}

/-- A pipeline has the parts that it was made of. -/
theorem make_parts {map constants : Option Node} {config : PipelineConfig} {services : Services}
    {observer : Observer σ} {p : Pipeline σ}
    (built : make map constants config services observer = .ok p) :
    map = some p.map ∧ p.constants = constants ∧ p.config = config ∧ p.services = services ∧
      p.observer = observer := by
  cases map with
  | none => simp [make] at built
  | some map =>
      simp only [make] at built
      split at built
      · cases built
      · cases settings : config.layoutConfig with
        | error e => simp [settings] at built
        | ok layoutConfig =>
            simp only [settings, Except.ok.injEq] at built
            subst built
            exact ⟨rfl, rfl, rfl, rfl, rfl⟩

variable (p : Pipeline σ)

/-- The page of the record of a number as it is just before that record: the constants are taken in,
    and the records in front of it on the page are laid out. -/
def pageFor (records : List Json) (number : Nat) : Page :=
  p.pageOf ((records.take number).drop (p.pageAt number * p.config.recordsPerPage))

theorem pageFor_bears {records : List Json} {number : Nat} (inside : number < records.length) :
    p.Bears (p.pageFor records number) (p.partAt number) (p.pageFor records number).items := by
  have split := p.pageAt_partAt number
  have before : ((records.take number).drop
      (p.pageAt number * p.config.recordsPerPage)).length = p.partAt number := by
    rw [List.length_drop, List.length_take]
    omega
  have bears := p.pageOf_bears
    ((records.take number).drop (p.pageAt number * p.config.recordsPerPage))
  rw [before] at bears
  rw [pageFor, Bears, Page.items, bears]
  rfl

theorem layPart_pageFor {records : List Json} {number : Nat} {record : Json}
    (here : records[number]? = some record) :
    (p.layPart (p.pageFor records number) (p.partAt number) record).1 =
      .ok (p.recordItems number record) := by
  obtain ⟨inside, -⟩ := List.getElem?_eq_some_iff.mp here
  rw [p.layPart_eq (p.pageFor_bears inside)]
  rfl

/-- The builder that lays out the record of a number. -/
def builderFor (records : List Json) (number : Nat) : Builder :=
  { (p.pageFor records number).builder with offset := p.partOffset (p.partAt number) }

theorem builderFor_eq {records : List Json} {number : Nat} (inside : number < records.length) :
    p.builderFor records number = p.builderAt (p.partAt number) (p.partOffset (p.partAt number))
      (p.pageFor records number).items := by
  rw [builderFor, p.pageFor_bears inside]
  rfl

theorem builtin_builderFor {records : List Json} {number : Nat} (inside : number < records.length) :
    (p.builderFor records number).renderers = .builtin := by
  rw [p.builderFor_eq inside]
  exact p.builtin_builderAt _ _ _

/-- The page that is open when a record comes is the one that it is laid out on. -/
theorem openPage_take {records : List Json} {number : Nat} (inside : number < records.length) :
    p.openPage (records.take number) = p.pageFor records number := by
  have split := p.pageAt_partAt number
  have below := p.partAt_lt number
  have count : (records.take number).length = number := List.length_take_of_le (by omega)
  have room : ((records.take number).drop (p.pageAt number * p.config.recordsPerPage)).length ≤
      p.config.recordsPerPage := by
    rw [List.length_drop, count]
    omega
  rw [openPage, onPage, count, pageFor, List.take_of_length_le room]

/-- A run crashes if laying out one of its records meets a font weight that crashes. -/
theorem crashesFrom_start {records : List Json} : p.crashesFrom [] records = true ↔
    ∃ i record, records[i]? = some record ∧
      (p.builderFor records i).MeetsSplit p.map record := by
  rw [crashesFrom_iff]
  refine exists_congr fun i => exists_congr fun record => and_congr_right fun here => ?_
  obtain ⟨inside, -⟩ := List.getElem?_eq_some_iff.mp here
  rw [List.nil_append, List.length_nil, Nat.zero_add, openPage_take p inside,
    ← Builder.crashes_iff (p.builtin_builderFor inside)]
  rfl

theorem freshPage_defined {name value : String}
    (found : p.freshPage.builder.constants.get? name = some value) :
    ∃ loaded, p.constants = some loaded ∧ (name, value) ∈ Renderers.builtin.constants loaded := by
  simp only [freshPage] at found
  cases given : p.constants with
  | none =>
      rw [given] at found
      cases found
  | some loaded =>
      rw [given] at found
      rcases Dictionary.mem_of_get?_insertAll _ found with defined | before
      · exact ⟨loaded, rfl, defined⟩
      · cases before

/-- Neither in the map nor among the constants that are loaded stands a font weight that crashes. -/
structure Clear : Prop where
  map : p.map.Clear
  constants : ∀ loaded ∈ p.constants, ∀ entry ∈ Renderers.builtin.constants loaded,
    entry.1 = StyleKey.fontWeight.name → ¬Attribute.SplitsWeight entry.2

theorem Clear.crashesFrom_start {p : Pipeline σ} (clear : p.Clear) (records : List Json) :
    p.crashesFrom [] records = false := by
  refine Bool.eq_false_iff.mpr fun crashed => ?_
  obtain ⟨i, record, here, met⟩ := p.crashesFrom_start.mp crashed
  obtain ⟨inside, -⟩ := List.getElem?_eq_some_iff.mp here
  have builtin := p.builtin_builderFor inside
  have spared := Builder.crashes_of_clear builtin p.map record clear.map fun raw found => by
    rw [p.builderFor_eq inside] at found
    -- constants are those of the records before, which are those of the map, or they were loaded
    rcases Dictionary.mem_of_get?_insertAll _ found with defined | fresh
    · obtain ⟨definitions, copied, defined⟩ := List.mem_flatten.mp defined
      exact clear.map.defined (_, raw) (List.eq_of_mem_replicate copied ▸ defined) rfl
    · obtain ⟨loaded, given, defined⟩ := p.freshPage_defined fresh
      exact clear.constants loaded given (_, raw) defined rfl
  rw [(Builder.crashes_iff builtin p.map record).mpr met] at spared
  cases spared

/-- The items of a page are those of its share of the records. -/
theorem items_onPage (records : List Json) (page : Nat) :
    (p.pageOf (p.onPage records page)).items =
      (((records.mapIdx p.recordItems).take ((page + 1) * p.config.recordsPerPage)).drop
        (page * p.config.recordsPerPage)).flatten := by
  have bears := p.pageOf_bears (p.onPage records page)
  rw [Page.items, bears]
  change ((p.onPage records page).mapIdx p.partItems).flatten = _
  congr 1
  refine List.ext_getElem? fun part => ?_
  have share : (page + 1) * p.config.recordsPerPage =
      page * p.config.recordsPerPage + p.config.recordsPerPage := Nat.succ_mul _ _
  rw [List.getElem?_mapIdx, onPage, List.getElem?_take, List.getElem?_drop, List.getElem?_drop,
    List.getElem?_take, List.getElem?_mapIdx, share]
  by_cases inside : part < p.config.recordsPerPage
  · rw [if_pos inside, if_pos (by omega)]
    have place : p.partAt (page * p.config.recordsPerPage + part) = part := by
      rw [partAt, Nat.mul_comm, Nat.mul_add_mod, Nat.mod_eq_of_lt inside]
    have same : p.recordItems (page * p.config.recordsPerPage + part) = p.partItems part := by
      funext record
      rw [recordItems, place]
    rw [same]
  · rw [if_neg inside, if_neg (by omega), Option.map_none]

theorem fillFrom_sheet (page : Page) (part : Nat) (records : List Json) :
    (p.fillFrom page part records).size = page.size ∧
      (p.fillFrom page part records).media = page.media := by
  induction records generalizing page part with
  | nil => exact ⟨rfl, rfl⟩
  | cons record rest ih => exact ih _ _

theorem pageOf_sheet (records : List Json) :
    (p.pageOf records).size = p.config.document.defaultPageSize ∧
      (p.pageOf records).media = Page.sheet p.config.document.defaultPageSize.dimensions := by
  have fresh : p.freshPage.size = p.config.document.defaultPageSize ∧
      p.freshPage.media = Page.sheet p.config.document.defaultPageSize.dimensions := by
    simp only [freshPage]
    cases p.constants <;> exact ⟨rfl, rfl⟩
  obtain ⟨size, media⟩ := p.fillFrom_sheet p.freshPage 0 records
  exact ⟨size.trans fresh.1, media.trans fresh.2⟩

theorem getElem?_pagesOf (records : List Json) {index : Nat} {page : Page}
    (there : (p.pagesOf records)[index]? = some page) :
    page = p.pageOf (p.onPage records index) := by
  rw [pagesOf, firstPages, List.getElem?_map] at there
  obtain ⟨number, counted, rfl⟩ := Option.map_eq_some_iff.mp there
  obtain ⟨inside, rfl⟩ := List.getElem?_eq_some_iff.mp counted
  rw [List.getElem_range]

/-- Generating a document succeeds, unless laying out some record visits an element that reads its
    font weight from a text that splits the name of one: then it crashes. No such text is read if
    none stands in the map or among the constants that are loaded.

    The document has as many pages of the default size as the records need, none if there are none,
    and every record makes the items that it makes on the page that holds the records in front of
    it. The items of a page are those of its records, one record after the other: from the first
    that the pages before it left over, up to the number that a page takes or to the last one. -/
theorem generate_paginates {map constants : Option Node} {config : PipelineConfig}
    {services : Services} (built : make map constants config services .silent = .ok p) (notes : σ)
    (records : List Json) :
    ∃ d made, (p.generate notes records = .ok d ∨ p.generate notes records = .error .crash) ∧
      (p.generate notes records = .error .crash ↔ ∃ i record, records[i]? = some record ∧
        (p.builderFor records i).MeetsSplit p.map record) ∧
      (p.Clear → p.generate notes records = .ok d) ∧
      p.placeEach (p.start notes) 0 records = .ok (made, d) ∧
      made.length = records.length ∧
      (∀ i record, records[i]? = some record → ∃ items, made[i]? = some items ∧
        (p.layPart (p.pageFor records i) (i % config.recordsPerPage) record).1 = .ok items) ∧
      d.pages.length = records.length ⌈/⌉ config.recordsPerPage ∧
      ∀ k page, d.pages[k]? = some page →
        page.size = config.document.defaultPageSize ∧
        page.media = Page.sheet config.document.defaultPageSize.dimensions ∧
        page.items = ((made.take ((k + 1) * config.recordsPerPage)).drop
          (k * config.recordsPerPage)).flatten := by
  obtain ⟨-, -, rfl, -, silent⟩ := make_parts built
  obtain ⟨last, placed, generated⟩ := p.placed_start silent notes records
  refine ⟨_, _, ?_, ?_, fun clear => ?_, placed, List.length_mapIdx, ?_, ?_, ?_⟩
  · rw [generated]
    cases p.crashesFrom [] records with
    | true => exact .inr rfl
    | false => exact .inl rfl
  · rw [generated, ← p.crashesFrom_start]
    cases p.crashesFrom [] records <;> simp
  · rw [generated, clear.crashesFrom_start]
    rfl
  · intro i record here
    refine ⟨p.recordItems i record, ?_, p.layPart_pageFor here⟩
    rw [List.getElem?_mapIdx, here]
    rfl
  · rw [Nat.ceilDiv_eq_add_pred_div]
    exact p.length_firstPages records _
  · intro k page there
    obtain rfl := p.getElem?_pagesOf records there
    exact ⟨(p.pageOf_sheet _).1, (p.pageOf_sheet _).2, p.items_onPage records k⟩

/-- Three records on pages that take two. -/
theorem generate_paginates_three :
    ∃ p : Pipeline Unit,
      make (some twoNames.map) none twoNames.config .default .silent = .ok p ∧ p.Clear ∧
      ∃ d, p.generate () [.null, .null, .object [("name", .string "a")]] = .ok d ∧
        d.pages.length = 2 := by
  have compiled : (make (some twoNames.map) none twoNames.config .default
      (.silent : Observer Unit)).isOk = true := by decide +kernel
  cases built : make (some twoNames.map) none twoNames.config .default .silent with
  | error e => rw [built] at compiled; cases compiled
  | ok p =>
      obtain ⟨given, none_loaded, -⟩ := make_parts built
      have clear : p.Clear := {
        map := Option.some.inj given ▸ by decide
        constants := by rw [none_loaded]; exact nofun }
      obtain ⟨d, made, -, -, generated, -, -, -, count, -⟩ := generate_paginates p built ()
        [.null, .null, .object [("name", .string "a")]]
      exact ⟨p, rfl, clear, d, generated clear, count⟩

/-- A text in whose font weight a Kelvin sign stands for the last letter of `black`. -/
def kelvinBlack : Node :=
  ⟨"Text", ⟨[("FontWeight", "blac\u212a")], by decide⟩, [], "a"⟩

theorem generate_crashes_kelvin :
    ∃ p : Pipeline Unit, make (some kelvinBlack) none .default .default .silent = .ok p ∧
      p.generate () [.null] = .error .crash := by
  have crashed : (make (some kelvinBlack) none .default .default
      (.silent : Observer Unit)).toOption.any (fun p =>
        match p.generate () [.null] with
        | .ok _ => false
        | .error e => e = .crash) = true := by decide +kernel
  cases built : make (some kelvinBlack) none .default .default .silent with
  | error e => rw [built] at crashed; cases crashed
  | ok p =>
      refine ⟨p, rfl, ?_⟩
      rw [built] at crashed
      cases generated : p.generate () [.null] with
      | ok d => simp [Except.toOption, generated] at crashed
      | error e => simpa [Except.toOption, generated] using crashed

end PageMap.Pipeline
