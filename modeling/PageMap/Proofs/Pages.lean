import PageMap.Pipeline.Basic
import PageMap.Proofs.Builtin
/-! # Pages of records

The records of a page are laid out by one builder, one after the other. What the builder has become
when it comes to a record is a matter of how many records are on the page, not of what is in them.
This file says which pages a list of records takes and what is on each of them.
-/

namespace PageMap

/-- With the built-in renderers and no container open, layout appends items that do not depend on
    those that are there. It leaves the rest of the builder as it was, except that the constants of
    the map are defined, whatever the data. -/
theorem Builder.layout_builtin (b : Builder) (builtin : b.renderers = .builtin)
    (closed : b.flows = []) (items : List Item) (map : Node) (data : Json) :
    let new := ({ b with items := [] }.layout map data).2.items
    { b with items }.layout map data = (.ok new,
      { b with constants := b.constants.insertAll map.definitions, items := items ++ new }) := by
  let bare : LayoutState := { b.toLayoutState with items := [] }
  have ok := b.toSetting.walk_ok data builtin map bare
  have defined := b.toSetting.walk_constants data builtin map bare
  obtain ⟨restored, ⟨amounts, used⟩, -⟩ := b.toSetting.walk_kept data map bare
  have behind := b.toSetting.walk_behind data items map bare
  have front : bare.behind items = { b.toLayoutState with items } := by
    simp only [LayoutState.behind, bare, List.append_nil]
  rcases walked : b.toSetting.walk data map bare with ⟨result, after⟩
  rw [walked] at ok defined restored used
  rw [front, walked] at behind
  obtain rfl : result = .ok () := ok
  have cascade : after.cascade = b.cascade := restored
  have constants : after.constants = b.constants.insertAll map.definitions := defined
  have flows : after.flows = b.flows := by
    have none_open : bare.flows = [] := closed
    rw [used, none_open]
    rfl
  have new : ({ b with items := [] }.layout map data).2.items = after.items := by
    simp only [layout]
    exact congrArg (·.2.items) walked
  have laid : { b with items }.layout map data =
      (.ok ((after.behind items).items.drop items.length),
        { b with toLayoutState := after.behind items }) := by
    simp only [layout, behind]
    rfl
  rw [laid, new]
  simp only [LayoutState.behind, List.drop_left, constants, cascade, flows]

namespace Pipeline

variable {σ : Type} (p : Pipeline σ)

/-! ### One page -/

def freshPage : Page :=
  let page : Page := .new p.config.document.defaultPageSize p.layoutConfig p.services
  match p.constants with
  | some constants => (page.load constants).2
  | none => page

def partOffset (part : Nat) : Single :=
  Single.ofNat part * p.config.document.partHeight

def layPart (page : Page) (part : Nat) (record : Json) :
    Except LayoutError (List Item) × Page :=
  { page with builder := { page.builder with offset := p.partOffset part } }.layout p.map record

def partCrashes (page : Page) (part : Nat) (record : Json) : Bool :=
  { page.builder with offset := p.partOffset part }.crashes p.map record

/-- Lays out records on a page, the first of them in a given part. -/
def fillFrom (p : Pipeline σ) (page : Page) (part : Nat) : List Json → Page
  | [] => page
  | record :: rest => p.fillFrom (p.layPart page part record).2 (part + 1) rest

def pageOf (records : List Json) : Page :=
  p.fillFrom p.freshPage 0 records

/-- The builder of a page that has a number of records on it. -/
def builderAt (count : Nat) (offset : Single) (items : List Item) : Builder :=
  { p.freshPage.builder with
    constants := p.freshPage.builder.constants.insertAll
      (List.replicate count p.map.definitions).flatten
    offset
    items }

/-- A page has a number of records on it, which left some items behind. -/
def Bears (page : Page) (count : Nat) (items : List Item) : Prop :=
  page.builder = p.builderAt count page.builder.offset items

def partItems (part : Nat) (record : Json) : List Item :=
  ((p.builderAt part (p.partOffset part) []).layout p.map record).2.items

theorem freshPage_builder : ∃ constants, p.freshPage.builder =
    { Builder.new
      { p.layoutConfig with pageSize := p.config.document.defaultPageSize.dimensions }
      p.services with constants } := by
  simp only [freshPage]
  cases p.constants <;> exact ⟨_, rfl⟩

theorem builtin_builderAt (count : Nat) (offset : Single) (items : List Item) :
    (p.builderAt count offset items).renderers = .builtin := by
  obtain ⟨constants, fresh⟩ := p.freshPage_builder
  simp only [builderAt, fresh]
  rfl

theorem flows_builderAt (count : Nat) (offset : Single) (items : List Item) :
    (p.builderAt count offset items).flows = [] := by
  obtain ⟨constants, fresh⟩ := p.freshPage_builder
  simp only [builderAt, fresh]
  rfl

/-- A record adds its items to a page, and the page is ready for the next one. -/
theorem layout_builderAt (part : Nat) (items : List Item) (record : Json) :
    (p.builderAt part (p.partOffset part) items).layout p.map record =
      (.ok (p.partItems part record),
        p.builderAt (part + 1) (p.partOffset part) (items ++ p.partItems part record)) := by
  have laid := Builder.layout_builtin (p.builderAt part (p.partOffset part) items)
    (p.builtin_builderAt part _ items) (p.flows_builderAt part _ items) items p.map record
  refine laid.trans ?_
  have defined :
      (p.builderAt part (p.partOffset part) items).constants.insertAll p.map.definitions =
        (p.builderAt (part + 1) (p.partOffset part) items).constants := by
    simp only [builderAt, List.replicate_succ', List.flatten_concat, Dictionary.insertAll_append]
  rw [defined]
  rfl

theorem fillFrom_append (page : Page) (part : Nat) (first second : List Json) :
    p.fillFrom page part (first ++ second) =
      p.fillFrom (p.fillFrom page part first) (part + first.length) second := by
  induction first generalizing page part with
  | nil => rfl
  | cons record rest ih =>
      rw [List.cons_append, fillFrom, ih, fillFrom, List.length_cons]
      congr 1
      omega

theorem pageOf_concat (records : List Json) (record : Json) :
    p.pageOf (records ++ [record]) = (p.layPart (p.pageOf records) records.length record).2 := by
  rw [pageOf, fillFrom_append, Nat.zero_add]
  rfl

theorem freshPage_bears : p.Bears p.freshPage 0 [] := by
  obtain ⟨constants, fresh⟩ := p.freshPage_builder
  simp only [Bears, builderAt, fresh]
  rfl

theorem layPart_eq {page : Page} {part : Nat} {items : List Item} (bears : p.Bears page part items)
    (record : Json) : p.layPart page part record = (.ok (p.partItems part record),
      { page with
        builder := p.builderAt (part + 1) (p.partOffset part) (items ++ p.partItems part record)
        laidOut := true }) := by
  have moved : { page.builder with offset := p.partOffset part } =
      p.builderAt part (p.partOffset part) items := by
    rw [bears]
    rfl
  simp only [layPart, Page.layout, moved, layout_builderAt]

theorem fillFrom_bears {page : Page} {part : Nat} {items : List Item}
    (bears : p.Bears page part items) (records : List Json) :
    p.Bears (p.fillFrom page part records) (part + records.length)
      (items ++ (records.mapIdx fun i record => p.partItems (part + i) record).flatten) := by
  induction records generalizing page part items with
  | nil => simpa [fillFrom] using bears
  | cons record rest ih =>
      have next : p.Bears (p.layPart page part record).2 (part + 1)
          (items ++ p.partItems part record) := by
        rw [layPart_eq p bears]
        rfl
      have rest := ih next
      simp only [Nat.add_assoc, Nat.add_comm 1, List.append_assoc] at rest
      simpa [fillFrom, List.mapIdx_cons] using rest

/-- A page holds the items of its records, one record after the other. -/
theorem pageOf_bears (records : List Json) :
    p.Bears (p.pageOf records) records.length (records.mapIdx p.partItems).flatten := by
  simpa [pageOf] using p.fillFrom_bears p.freshPage_bears records

/-! ### All pages -/

def pageAt (number : Nat) : Nat :=
  number / p.config.recordsPerPage

/-- The part of its page that the record of a number takes. -/
def partAt (number : Nat) : Nat :=
  number % p.config.recordsPerPage

def recordItems (number : Nat) (record : Json) : List Item :=
  p.partItems (p.partAt number) record

/-- The number of pages that a number of records take. -/
def pageCount (count : Nat) : Nat :=
  (count + p.config.recordsPerPage - 1) / p.config.recordsPerPage

/-- The records of a page, of all that there are. -/
def onPage (records : List Json) (page : Nat) : List Json :=
  (records.drop (page * p.config.recordsPerPage)).take p.config.recordsPerPage

def firstPages (records : List Json) (count : Nat) : List Page :=
  (List.range count).map fun page => p.pageOf (p.onPage records page)

def pagesOf (records : List Json) : List Page :=
  p.firstPages records (p.pageCount records.length)

/-- The page that a further record goes on. It is a new one if all others are full. -/
def openPage (records : List Json) : Page :=
  p.pageOf (p.onPage records (p.pageAt records.length))

theorem pageAt_partAt (number : Nat) :
    p.pageAt number * p.config.recordsPerPage + p.partAt number = number :=
  Nat.div_add_mod' number p.config.recordsPerPage

theorem recordsPerPage_pos : 0 < p.config.recordsPerPage :=
  Nat.pos_of_ne_zero p.recordsPerPage_ne_zero

theorem partAt_lt (number : Nat) : p.partAt number < p.config.recordsPerPage :=
  Nat.mod_lt number p.recordsPerPage_pos

theorem pageCount_succ (count : Nat) : p.pageCount (count + 1) = p.pageAt count + 1 := by
  rw [pageCount, Nat.add_right_comm, Nat.add_sub_cancel, Nat.add_div_right _ p.recordsPerPage_pos,
    pageAt]

theorem pageCount_full {count : Nat} (full : p.partAt count = 0) :
    p.pageCount count = p.pageAt count := by
  have split := p.pageAt_partAt count
  have positive := p.recordsPerPage_pos
  have sum : count + p.config.recordsPerPage - 1 =
      p.config.recordsPerPage * p.pageAt count + (p.config.recordsPerPage - 1) := by
    rw [Nat.mul_comm]
    omega
  have rest : (p.config.recordsPerPage - 1) / p.config.recordsPerPage = 0 :=
    Nat.div_eq_of_lt (by omega)
  rw [pageCount, sum, Nat.mul_add_div positive, rest, Nat.add_zero]

theorem pageCount_open {count : Nat} (space : p.partAt count ≠ 0) :
    p.pageCount count = p.pageAt count + 1 := by
  have split := p.pageAt_partAt count
  have positive := p.recordsPerPage_pos
  have below := p.partAt_lt count
  have sum : count + p.config.recordsPerPage - 1 = p.config.recordsPerPage * p.pageAt count +
      (p.partAt count - 1 + p.config.recordsPerPage) := by
    rw [Nat.mul_comm]
    omega
  have rest : (p.partAt count - 1) / p.config.recordsPerPage = 0 := Nat.div_eq_of_lt (by omega)
  rw [pageCount, sum, Nat.mul_add_div positive, Nat.add_div_right _ positive, rest]

theorem pagesOf_nil : p.pagesOf [] = [] := by
  have none_yet : p.pageCount 0 = 0 :=
    (p.pageCount_full (Nat.zero_mod _)).trans (Nat.zero_div _)
  rw [pagesOf, List.length_nil, none_yet]
  rfl

section Concat

variable (records : List Json) (record : Json)

theorem onPage_before {page : Nat} (before : page < p.pageAt records.length) :
    p.onPage (records ++ [record]) page = p.onPage records page := by
  have whole : page * p.config.recordsPerPage + p.config.recordsPerPage ≤ records.length := by
    rw [← Nat.succ_mul]
    exact Nat.le_trans (Nat.mul_le_mul_right _ before) (Nat.div_mul_le_self _ _)
  rw [onPage, List.drop_append_of_le_length (by omega), List.take_append_of_le_length]
  · rfl
  · rw [List.length_drop]
    omega

theorem length_onPage_last :
    (p.onPage records (p.pageAt records.length)).length = p.partAt records.length := by
  have split := p.pageAt_partAt records.length
  have below := p.partAt_lt records.length
  rw [onPage, List.length_take, List.length_drop]
  omega

theorem onPage_last : p.onPage (records ++ [record]) (p.pageAt records.length) =
    p.onPage records (p.pageAt records.length) ++ [record] := by
  have split := p.pageAt_partAt records.length
  have below := p.partAt_lt records.length
  have room : (records.drop (p.pageAt records.length * p.config.recordsPerPage)).length <
      p.config.recordsPerPage := by
    rw [List.length_drop]
    omega
  rw [onPage, onPage, List.drop_append_of_le_length (by omega),
    List.take_of_length_le (Nat.le_of_lt room), List.take_of_length_le]
  rw [List.length_append, List.length_singleton]
  exact room

theorem length_firstPages (count : Nat) : (p.firstPages records count).length = count := by
  rw [firstPages, List.length_map, List.length_range]

theorem openPage_bears :
    p.Bears (p.openPage records) (p.partAt records.length) (p.openPage records).items := by
  have bears := p.pageOf_bears (p.onPage records (p.pageAt records.length))
  rw [length_onPage_last] at bears
  rw [openPage, Bears, Page.items, bears]
  rfl

theorem openPage_full (full : p.partAt records.length = 0) : p.openPage records = p.freshPage := by
  have none_yet : p.onPage records (p.pageAt records.length) = [] :=
    List.length_eq_zero_iff.mp ((p.length_onPage_last records).trans full)
  rw [openPage, none_yet]
  rfl

theorem pagesOf_full (full : p.partAt records.length = 0) :
    p.pagesOf records = p.firstPages records (p.pageAt records.length) := by
  rw [pagesOf, pageCount_full p full]

theorem pagesOf_open (space : p.partAt records.length ≠ 0) : p.pagesOf records =
    p.firstPages records (p.pageAt records.length) ++ [p.openPage records] := by
  rw [pagesOf, pageCount_open p space, firstPages, List.range_succ, List.map_append]
  rfl

/-- A further record changes the page that is open for it and no other. -/
theorem pagesOf_concat : p.pagesOf (records ++ [record]) =
    p.firstPages records (p.pageAt records.length) ++
      [(p.layPart (p.openPage records) (p.partAt records.length) record).2] := by
  rw [pagesOf, List.length_append, List.length_singleton, pageCount_succ, firstPages,
    List.range_succ, List.map_append, List.map_singleton, onPage_last, pageOf_concat,
    length_onPage_last]
  congr 1
  refine List.map_congr_left fun page before => ?_
  rw [p.onPage_before records record (List.mem_range.mp before)]

end Concat

end Pipeline

end PageMap
