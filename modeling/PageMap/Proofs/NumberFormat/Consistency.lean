import PageMap.Proofs.NumberFormat.Sections
/-! # Consistent formats

A compiled section is counted in one go and its items are laid out in another. Both agree: a section
counts the places for digits that are among its items, the point stands between those for whole
digits and those for the fraction, and the least numbers of digits are no more than there are
places. A format has one to three sections, and the first one has a place for a digit.
-/

namespace PageMap

namespace NumberSection

open NumberToken

/-- The counts of a section are those of its items. -/
structure Consistent (s : NumberSection) : Prop where
  wholeCount : s.items.count .wholeDigit = s.wholeCount
  fractionCount : s.items.count .fractionDigit = s.maxFraction
  point_unique : s.items.count .point ≤ 1
  point_mem : 0 < s.maxFraction → .point ∈ s.items
  before_point : ∀ front behind, s.items = front ++ .point :: behind → .fractionDigit ∉ front
  behind_point : ∀ front behind, s.items = front ++ .point :: behind → .wholeDigit ∉ behind
  minWhole_le : s.minWhole ≤ s.wholeCount
  minFraction_le : s.minFraction ≤ s.maxFraction
  two_le_of_grouping : s.grouping = true → 2 ≤ s.wholeCount

/-! ### Items in order -/

namespace Arranged

variable {wholeCount count : Nat} {items : List NumberItem}

theorem count_wholeDigit (arranged : Arranged wholeCount count items) :
    items.count .wholeDigit = wholeCount := by
  cases arranged with
  | whole order places => exact places
  | point order places orderBehind =>
      have none_behind := List.count_eq_zero_of_not_mem fun digit => (orderBehind _ digit).2 rfl
      simp [places, none_behind]

theorem count_fractionDigit (arranged : Arranged wholeCount count items) :
    items.count .fractionDigit = count := by
  cases arranged with
  | whole order places =>
      exact List.count_eq_zero_of_not_mem fun digit => (order _ digit).2 rfl
  | point order places orderBehind =>
      have none_before := List.count_eq_zero_of_not_mem fun digit => (order _ digit).2 rfl
      simp [none_before]

theorem count_point (arranged : Arranged wholeCount count items) : items.count .point ≤ 1 := by
  cases arranged with
  | whole order places =>
      rw [List.count_eq_zero_of_not_mem fun point => (order _ point).1 rfl]
      exact Nat.zero_le 1
  | point order places orderBehind =>
      have none_before := List.count_eq_zero_of_not_mem fun point => (order _ point).1 rfl
      have none_behind := List.count_eq_zero_of_not_mem fun point => (orderBehind _ point).1 rfl
      simp [none_before, none_behind]

theorem point_mem (arranged : Arranged wholeCount count items) (places : 0 < count) :
    .point ∈ items := by
  cases arranged with
  | whole => exact absurd places (Nat.lt_irrefl 0)
  | point => simp

/-- Wherever a point is found, it is the one that has no fraction before it and no whole digits
    behind it. -/
theorem around_point (arranged : Arranged wholeCount count items) {front behind : List NumberItem}
    (split : items = front ++ .point :: behind) :
    .fractionDigit ∉ front ∧ .wholeDigit ∉ behind := by
  cases arranged with
  | whole order places =>
      have point : NumberItem.point ∈ items := by simp [split]
      exact absurd rfl (order _ point).1
  | point order places orderBehind =>
      obtain ⟨rfl, -, rfl⟩ := (List.append_cons_inj_of_notMem
        (fun point => (order _ point).1 rfl) fun point => (orderBehind _ point).1 rfl).mp split
      exact ⟨fun digit => (order _ digit).2 rfl, fun digit => (orderBehind _ digit).2 rfl⟩

end Arranged

/-! ### Sections -/

theorem placeholders_pos_of_groups {tokens : List NumberToken} (grouping : groups tokens = true) :
    0 < (placeholders tokens).length := by
  induction tokens with
  | nil => cases grouping
  | cons token rest ih =>
      rw [groups, Bool.or_eq_true, Bool.and_eq_true] at grouping
      have later : 0 < (placeholders rest).length := by
        rcases grouping with ⟨-, follows⟩ | inside
        · obtain ⟨token, member, place⟩ := List.any_eq_true.mp follows
          exact List.length_pos_of_mem (List.mem_filter.mpr ⟨member, place⟩)
        · exact ih inside
      exact later.trans_le ((List.sublist_cons_self token rest).filter _).length_le

theorem groups_cons {token : NumberToken} (other : token ≠ .comma) (rest : List NumberToken) :
    groups (token :: rest) = groups rest := by
  simp [groups, other]

/-- A comma that groups has a digit to its right, and one to its left as every comma has. -/
theorem two_le_of_groups {tokens : List PlacedToken} (matched : strayComma? tokens = none)
    (grouping : groups (wholeTokens tokens) = true) :
    2 ≤ (placeholders (wholeTokens tokens)).length := by
  induction tokens with
  | nil => cases grouping
  | cons token rest ih =>
      obtain ⟨position, token⟩ := token
      by_cases point : token = .point
      · subst point
        cases grouping
      have whole : wholeTokens ((position, token) :: rest) = token :: wholeTokens rest :=
        List.takeWhile_cons_of_pos (decide_eq_true point)
      rw [whole] at grouping ⊢
      by_cases place : token.isPlaceholder = true
      · -- The first digit is not among those that follow the comma.
        have other : token ≠ .comma := fun comma => by rw [comma] at place; cases place
        rw [groups_cons other] at grouping
        rw [placeholders, List.filter_cons_of_pos place]
        exact Nat.succ_le_succ (placeholders_pos_of_groups grouping)
      · rw [strayComma?, if_neg (not_or.mpr ⟨point, place⟩)] at matched
        have other : token ≠ .comma := fun comma => by rw [if_pos comma] at matched; cases matched
        rw [if_neg other] at matched
        rw [groups_cons other] at grouping
        rw [placeholders, List.filter_cons_of_neg place]
        exact ih matched grouping

theorem consistent_ofTokens {tokens : List PlacedToken} (matched : strayComma? tokens = none) :
    (ofTokens tokens).Consistent := by
  have arranged := ofTokens_arranged tokens
  exact
    { wholeCount := arranged.count_wholeDigit
      fractionCount := arranged.count_fractionDigit
      point_unique := arranged.count_point
      point_mem := arranged.point_mem
      before_point _ _ split := (arranged.around_point split).1
      behind_point _ _ split := (arranged.around_point split).2
      minWhole_le := (List.dropWhile_suffix _).length_le
      minFraction_le := minFraction_le_maxFraction tokens
      two_le_of_grouping := two_le_of_groups matched }

theorem Consistent.exists_place {s : NumberSection} (consistent : s.Consistent)
    (places : s.hasPlaceholders = true) : .wholeDigit ∈ s.items ∨ .fractionDigit ∈ s.items := by
  have counted : 0 < s.items.count .wholeDigit + s.items.count .fractionDigit := by
    rw [consistent.wholeCount, consistent.fractionCount]
    exact of_decide_eq_true places
  rcases Nat.add_pos_iff_pos_or_pos.mp counted with whole | fraction
  · exact .inl (List.count_pos_iff.mp whole)
  · exact .inr (List.count_pos_iff.mp fraction)

end NumberSection

/-! ### Formats -/

namespace NumberFormat

open NumberToken NumberSection

/-- There are one to three sections, the first of which has a place for a digit, and all of them
    are consistent. -/
structure Consistent (f : NumberFormat) : Prop where
  sections_pos : 1 ≤ f.sections.length
  sections_le : f.sections.length ≤ 3
  leading : ∃ s, f.section? 0 = some s ∧ (.wholeDigit ∈ s.items ∨ .fractionDigit ∈ s.items)
  each : ∀ s, some s ∈ f.sections → s.Consistent

theorem length_splitOnPPrepend (current tokens : List PlacedToken) :
    (tokens.splitOnPPrepend isSeparator current).length =
      (tokens.filter isSeparator).length + 1 := by
  induction tokens generalizing current with
  | nil => rfl
  | cons token rest ih =>
      rw [List.splitOnPPrepend.eq_def, List.filter_cons]
      simp only
      split
      · rw [List.length_cons, ih, List.length_cons]
      · exact ih _

theorem consistent_of_ofPattern {pattern : String} {f : NumberFormat}
    (accepted : ofPattern pattern = .ok f) : f.Consistent := by
  obtain ⟨r⟩ := nonempty_reading pattern
  have language := accepted_of_ofPattern r accepted
  have sections := sections_eq_mapIdx r accepted
  have length : f.sections.length = r.separators.length + 1 := by
    rw [sections, List.length_mapIdx]
    exact length_splitOnPPrepend [] r.tokens
  have each (s : NumberSection) (member : some s ∈ f.sections) : s.Consistent := by
    rw [sections, List.mem_mapIdx] at member
    obtain ⟨i, inside, here⟩ := member
    have accepted := language.sections i _ (List.getElem?_eq_getElem inside)
    rw [sectionAt] at here
    split at here <;> cases here
    exact consistent_ofTokens (strayComma?_eq_none.mpr accepted.commas)
  obtain ⟨s, first⟩ := exists_leading accepted
  have consistent := each s (List.mem_of_getElem? (Option.join_eq_some_iff.mp first))
  exact
    { sections_pos := length ▸ Nat.le_add_left 1 _
      sections_le := length ▸ Nat.succ_le_succ language.separators
      leading := ⟨s, first, consistent.exists_place (hasPlaceholders_leading accepted first)⟩
      each }

end NumberFormat

end PageMap
