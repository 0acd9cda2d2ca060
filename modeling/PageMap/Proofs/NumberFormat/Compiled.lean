import Mathlib.Data.List.TakeWhile
import PageMap.Proofs.NumberFormat.Language
/-! # Compiled sections

The items of a compiled section keep the order of its tokens: places for whole digits and texts come
first, then the point, if there is one, and behind it places for the fraction and texts. The
section of a format at an index is compiled from the tokens between separators at that index.
-/

namespace PageMap

namespace NumberSection

/-- What compiling comes to for tokens that are accepted. -/
def ofTokens (tokens : List PlacedToken) : NumberSection :=
  let whole := wholeTokens tokens
  let fraction := pointTokens tokens
  { items := whole.filterMap wholeItem? ++ pointItems fraction
    wholeCount := (placeholders whole).length
    minWhole := ((placeholders whole).dropWhile (· ≠ .zero)).length
    minFraction := ((placeholders fraction).reverse.dropWhile (· ≠ .zero)).length
    maxFraction := (placeholders fraction).length
    grouping := groups whole
    multiplier := fractionFactor (wholeFactor 1.0 whole) fraction }

theorem eq_ofTokens {leading : Bool} {tokens : List PlacedToken} {s : NumberSection}
    (compiled : compile leading tokens = .ok s) : s = ofTokens tokens := by
  rw [compile] at compiled
  split at compiled
  · cases compiled
  · simp only at compiled
    split at compiled
    · cases compiled
    · exact (Except.ok.inj compiled).symm

theorem minFraction_le_maxFraction (tokens : List PlacedToken) :
    (ofTokens tokens).minFraction ≤ (ofTokens tokens).maxFraction :=
  (List.dropWhile_suffix _).length_le.trans_eq List.length_reverse

/-! ### The order of items -/

/-- Items in order, with so many places for digits before the point and behind it. -/
inductive Arranged (wholeCount : Nat) : Nat → List NumberItem → Prop where
  | whole {items : List NumberItem} : (∀ item ∈ items, item ≠ .point ∧ item ≠ .fractionDigit) →
      items.count .wholeDigit = wholeCount → Arranged wholeCount 0 items
  | point {front behind : List NumberItem} :
      (∀ item ∈ front, item ≠ .point ∧ item ≠ .fractionDigit) →
      front.count .wholeDigit = wholeCount →
      (∀ item ∈ behind, item ≠ .point ∧ item ≠ .wholeDigit) →
      Arranged wholeCount (behind.count .fractionDigit) (front ++ .point :: behind)

theorem count_filterMap_placeholders {place : NumberItem} {item? : NumberToken → Option NumberItem}
    (stands : ∀ token, item? token = some place ↔ token.isPlaceholder = true)
    (tokens : List NumberToken) :
    (tokens.filterMap item?).count place = (placeholders tokens).length := by
  rw [List.count_filterMap, placeholders, ← List.countP_eq_length_filter]
  refine List.countP_congr fun token _ => ?_
  rw [beq_iff_eq, stands]

theorem wholeItem?_eq_wholeDigit (token : NumberToken) :
    wholeItem? token = some .wholeDigit ↔ token.isPlaceholder = true := by
  cases token <;> simp [wholeItem?, NumberToken.isPlaceholder]

theorem fractionItem?_eq_fractionDigit (token : NumberToken) :
    fractionItem? token = some .fractionDigit ↔ token.isPlaceholder = true := by
  cases token <;> simp [fractionItem?, wholeItem?, NumberToken.isPlaceholder]

theorem wholeItem?_ne {token : NumberToken} {item : NumberItem} (noPoint : token ≠ .point)
    (stands : wholeItem? token = some item) : item ≠ .point ∧ item ≠ .fractionDigit := by
  cases token <;> cases stands <;> first | exact absurd rfl noPoint | simp

theorem fractionItem?_ne {token : NumberToken} {item : NumberItem}
    (stands : fractionItem? token = some item) : item ≠ .point ∧ item ≠ .wholeDigit := by
  cases token <;> cases stands <;> simp

theorem ofTokens_arranged (tokens : List PlacedToken) :
    Arranged (ofTokens tokens).wholeCount (ofTokens tokens).maxFraction
      (ofTokens tokens).items := by
  have front (item : NumberItem) (member : item ∈ (wholeTokens tokens).filterMap wholeItem?) :
      item ≠ .point ∧ item ≠ .fractionDigit := by
    obtain ⟨token, before, stands⟩ := List.mem_filterMap.mp member
    have noPoint : token ≠ .point := by simpa using List.mem_takeWhile_imp before
    exact wholeItem?_ne noPoint stands
  have places := count_filterMap_placeholders wholeItem?_eq_wholeDigit (wholeTokens tokens)
  cases behind : pointTokens tokens with
  | nil =>
      simpa [ofTokens, behind, pointItems, placeholders] using Arranged.whole front places
  | cons first rest =>
      have point : first = .point := by
        have head := List.head?_dropWhile_not (· ≠ NumberToken.point) (tokens.map (·.2))
        rw [← pointTokens, behind] at head
        simpa using head
      subst point
      have after (item : NumberItem) (member : item ∈ rest.filterMap fractionItem?) :
          item ≠ .point ∧ item ≠ .wholeDigit := by
        obtain ⟨token, -, stands⟩ := List.mem_filterMap.mp member
        exact fractionItem?_ne stands
      have arranged := Arranged.point front places after
      rw [count_filterMap_placeholders fractionItem?_eq_fractionDigit] at arranged
      simpa [ofTokens, behind, pointItems, placeholders, NumberToken.isPlaceholder] using arranged

end NumberSection

/-! ### Sections of a format -/

namespace NumberFormat

open NumberToken

theorem compile_of_compileSection {pattern : String} {index : Nat} {tokens : List PlacedToken}
    {s : NumberSection} (accepted : compileSection pattern index tokens = .ok (some s)) :
    NumberSection.compile (index = 0) tokens = .ok s := by
  rw [compileSection] at accepted
  split at accepted
  · cases accepted
  · split at accepted <;> cases accepted
    assumption

theorem compileSections_cons_ok {pattern : String} {index : Nat} {tokens : List PlacedToken}
    {rest : List (List PlacedToken)} {compiled : List (Option NumberSection)}
    (accepted : compileSections pattern index (tokens :: rest) = .ok compiled) :
    ∃ first others, compileSection pattern index tokens = .ok first ∧
      compileSections pattern (index + 1) rest = .ok others ∧ compiled = first :: others := by
  cases here : compileSection pattern index tokens with
  | error e => simp [compileSections, here, bind, Except.bind] at accepted
  | ok first =>
      cases later : compileSections pattern (index + 1) rest with
      | error e => simp [compileSections, here, later, bind, Except.bind] at accepted
      | ok others =>
          refine ⟨first, others, rfl, rfl, ?_⟩
          simpa [compileSections, here, later, bind, Except.bind, pure, Except.pure]
            using accepted.symm

theorem exists_tokens_of_compileSections {pattern : String} {index : Nat}
    {sections : List (List PlacedToken)} {compiled : List (Option NumberSection)}
    (accepted : compileSections pattern index sections = .ok compiled) {i : Nat}
    {s : NumberSection} (found : compiled[i]? = some (some s)) :
    ∃ tokens, sections[i]? = some tokens ∧
      NumberSection.compile (index + i = 0) tokens = .ok s := by
  induction sections generalizing index compiled i with
  | nil =>
      obtain rfl := Except.ok.inj accepted
      cases found
  | cons tokens rest ih =>
      obtain ⟨first, others, here, later, rfl⟩ := compileSections_cons_ok accepted
      cases i with
      | zero =>
          obtain rfl := Option.some.inj found
          exact ⟨tokens, rfl, compile_of_compileSection here⟩
      | succ i =>
          have next : index + (i + 1) = index + 1 + i := by omega
          rw [next]
          exact ih later found

/-- A format has the sections that its pattern reads as. -/
theorem sections_of_ofPattern {pattern : String} (r : Reading pattern) {f : NumberFormat}
    (accepted : ofPattern pattern = .ok f) :
    compileSections pattern 0 r.sections = .ok f.sections := by
  have nonempty : pattern ≠ "" := fun blank => by
    subst blank
    cases accepted
  rw [r.ofPattern_eq nonempty] at accepted
  split at accepted
  · cases accepted
  · cases accepted
  · split at accepted
    · cases accepted
    · cases compiled : compileSections pattern 0 r.sections with
      | error e =>
          rw [compiled] at accepted
          cases accepted
      | ok sections =>
          rw [compiled] at accepted
          obtain rfl := Except.ok.inj accepted
          rfl

/-- A section of a format is compiled from the tokens between separators at the same index. -/
theorem exists_tokens_of_section? {pattern : String} (r : Reading pattern) {f : NumberFormat}
    (accepted : ofPattern pattern = .ok f) {index : Nat} {s : NumberSection}
    (found : f.section? index = some s) :
    ∃ tokens, r.sections[index]? = some tokens ∧
      NumberSection.compile (index = 0) tokens = .ok s := by
  have stands : f.sections[index]? = some (some s) := Option.join_eq_some_iff.mp found
  simpa using exists_tokens_of_compileSections (sections_of_ofPattern r accepted) stands

end NumberFormat

end PageMap
