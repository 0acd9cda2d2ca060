import PageMap.Proofs.NumberFormat.Literals
/-! # The section for zero

A number that its own section shows as zero goes to the third section, if there is one. There it is
scaled and rounded once more. With more places than its own section has, some of its digits can be
left, and then it is not written like zero.
-/

namespace PageMap

/-! ### Digits of zero -/

theorem significantDigits_eq_nil {n : ℕ} : significantDigits n = [] ↔ n = 0 := by
  constructor
  · intro none
    rw [← digitsValue_significantDigits n, none]
    rfl
  · rintro rfl
    rfl

/-- Only zero has no other digits than zeros. -/
theorem leftpad_zeros_iff {length n : ℕ} :
    (∀ c ∈ (significantDigits n).leftpad length '0', c = '0') ↔ n = 0 := by
  constructor
  · intro zeros
    have first := head?_significantDigits n
    cases digits : significantDigits n with
    | nil => exact significantDigits_eq_nil.mp digits
    | cons c cs =>
        rw [digits] at first
        have zero : c = '0' := zeros c (by simp [digits, List.leftpad])
        exact absurd (congrArg some zero) first
  · rintro rfl c member
    rw [significantDigits_zero, List.leftpad, List.append_nil] at member
    exact List.eq_of_mem_replicate member

theorem TrimmedTo.subset {least : ℕ} {digits shown : List Char}
    (trimmed : TrimmedTo least digits shown) : shown ⊆ digits := by
  obtain ⟨count, zeros⟩ := trimmed.zeros
  rw [zeros]
  exact List.subset_append_left _ _

theorem TrimmedTo.zeros_iff {least : ℕ} {digits shown : List Char}
    (trimmed : TrimmedTo least digits shown) :
    (∀ c ∈ shown, c = '0') ↔ ∀ c ∈ digits, c = '0' := by
  obtain ⟨count, zeros⟩ := trimmed.zeros
  constructor
  · intro shown_zero c member
    rw [zeros, List.mem_append] at member
    exact member.elim (shown_zero c) List.eq_of_mem_replicate
  · exact fun all c member => all c (trimmed.subset member)

/-- Grouping adds nothing but commas. -/
theorem mem_withCommas {grouping : Bool} {digits : List Char} {c : Char} (noComma : c ≠ ',') :
    c ∈ withCommas grouping digits ↔ c ∈ digits := by
  rw [← NumberSection.flatten_grouped]
  induction digits with
  | nil => rfl
  | cons d digits ih =>
      rw [NumberSection.grouped]
      split <;> simp [ih, noComma]

namespace NumberSection

theorem isZero_place_iff (s : NumberSection) (least : s.minFraction ≤ s.maxFraction) {n : ℕ} :
    (s.place n).isZero = true ↔ n = 0 := by
  obtain ⟨whole, fraction⟩ := s.place_digits least n
  rw [NumberFormat.isZero_iff, List.forall_mem_append, whole, leftpad_zeros_iff, fraction.zeros_iff,
    leftpad_zeros_iff]
  constructor
  · rintro ⟨quotient, remainder⟩
    rw [← Nat.div_add_mod n (10 ^ s.maxFraction), quotient, remainder, Nat.mul_zero]
  · rintro rfl
    exact ⟨Nat.zero_div _, Nat.zero_mod _⟩

theorem isDigit_place (s : NumberSection) (least : s.minFraction ≤ s.maxFraction) (n : ℕ) :
    ∀ c ∈ (s.place n).whole ++ (s.place n).fraction, c.isDigit = true := by
  obtain ⟨whole, fraction⟩ := s.place_digits least n
  rw [List.forall_mem_append, whole]
  exact ⟨fun c => isDigit_of_mem_leftpad,
    fun c member => isDigit_of_mem_leftpad (fraction.subset member)⟩

theorem mem_shown {grouping : Bool} {digits : RoundedDigits} {c : Char}
    (digit : c.isDigit = true) :
    (c ∈ withCommas grouping digits.whole ++
      if digits.fraction = [] then [] else '.' :: digits.fraction) ↔
      c ∈ digits.whole ++ digits.fraction := by
  have noComma : c ≠ ',' := by
    rintro rfl
    cases digit
  have noPoint : c ≠ '.' := by
    rintro rfl
    cases digit
  rw [List.mem_append, List.mem_append, mem_withCommas noComma]
  split
  case isTrue none => rw [none]
  case isFalse => simp [noPoint]

/-- With places for digits nothing but zero is written like zero. -/
theorem eq_zero_of_render_eq (s : NumberSection)
    (arranged : Arranged s.wholeCount s.maxFraction s.items) (least : s.minFraction ≤ s.maxFraction)
    (places : s.hasPlaceholders = true) {n : ℕ} {currency : String}
    (same : s.render (s.place n) false currency = s.render (s.place 0) false currency) : n = 0 := by
  obtain ⟨text, written, leaves⟩ :=
    s.render_leaves arranged places (s.length_fraction_place least n) currency
  obtain ⟨zeroText, writtenZero, leavesZero⟩ :=
    s.render_leaves arranged places (s.length_fraction_place least 0) currency
  rw [written, writtenZero] at same
  obtain rfl : text = zeroText := String.ofList_injective same
  -- The fixed texts are the same, so that the digits are the same in some order.
  have digits := (List.perm_append_left_iff _).mp (leaves.perm.symm.trans leavesZero.perm)
  have zeros := NumberFormat.isZero_iff.mp ((s.isZero_place_iff least).mpr rfl)
  refine (s.isZero_place_iff least).mp (NumberFormat.isZero_iff.mpr ?_)
  intro c member
  have digit := s.isDigit_place least n c member
  exact zeros c ((mem_shown digit).mp (digits.subset ((mem_shown digit).mpr member)))

theorem plain_of_hasPlaceholders {tokens : List PlacedToken}
    (none_placed : (ofTokens tokens).hasPlaceholders = false) : Plain tokens := by
  intro token member
  by_contra digit
  rw [hasPlaceholders_of_mem member (Bool.eq_true_of_not_eq_false digit)] at none_placed
  cases none_placed

theorem point_mem_items {tokens : List PlacedToken} :
    .point ∈ (ofTokens tokens).items ↔ .point ∈ tokens.map (·.2) := by
  constructor
  · contrapose
    intro noPoint item
    rw [items_noPoint noPoint] at item
    obtain ⟨token, member, stands⟩ := List.mem_filterMap.mp item
    exact (wholeItem?_ne (fun point => noPoint (point ▸ member)) stands).1 rfl
  · intro point
    obtain ⟨front, behind, split, first⟩ := List.eq_append_cons_of_mem point
    rw [items_point split first]
    simp

/-- A number of units is written like zero if it is zero, or if nothing of it is written. -/
theorem render_eq_zero_iff (tokens : List PlacedToken) (n : ℕ) (currency : String) :
    (ofTokens tokens).render ((ofTokens tokens).place n) false currency =
        (ofTokens tokens).render ((ofTokens tokens).place 0) false currency ↔
      n = 0 ∨ (ofTokens tokens).hasPlaceholders = false ∧ .point ∉ (ofTokens tokens).items := by
  rw [point_mem_items]
  cases placed : (ofTokens tokens).hasPlaceholders with
  | true =>
      have least := minFraction_le_maxFraction tokens
      constructor
      · exact fun same => .inl (eq_zero_of_render_eq _ (ofTokens_arranged tokens) least placed same)
      · rintro (rfl | ⟨none_placed, -⟩)
        · rfl
        · cases none_placed
  | false =>
      have plain := plain_of_hasPlaceholders placed
      by_cases point : .point ∈ tokens.map (·.2)
      · obtain ⟨front, behind, split, first⟩ := List.eq_append_cons_of_mem point
        rw [plain.render_point split first, plain.render_point split first]
        simp [point, significantDigits_eq_nil]
      · rw [plain.render_noPoint point, plain.render_noPoint point]
        simp [point]

/-- Zero stays zero if anything can be scaled. -/
theorem isZero_scaled {s : NumberSection} {x y : Double} (zero : Double.IsZero x)
    (fits : (s.scaled y).isFinite = true) : Double.IsZero (s.scaled x) := by
  obtain ⟨product, power⟩ := Double.isFinite_of_mul fits
  obtain ⟨-, multiplier⟩ := Double.isFinite_of_mul product
  exact (zero.mul multiplier).mul power

end NumberSection

namespace NumberFormat

open NumberToken NumberSection

variable {f : NumberFormat} {x : Double}

/-- The section that a number has for its sign shows it as zero. -/
def ShowsZero (f : NumberFormat) (x : Double) : Prop :=
  ∃ leading digits, f.section? 0 = some leading ∧
    (f.choose leading x).1.digits? x.abs = some digits ∧
    (if (f.choose leading x).1.hasPlaceholders then digits.isZero else x.abs == 0.0) = true

theorem showsZero_zero {pattern : String} (ok : ofPattern pattern = .ok f) (fits : f.Fits 0.0) :
    f.ShowsZero 0.0 := by
  obtain ⟨r⟩ := nonempty_reading pattern
  obtain ⟨leading, first⟩ := exists_leading ok
  obtain ⟨tokens, -, compiled⟩ := exists_tokens_of_section? r ok first
  obtain rfl := eq_ofTokens compiled
  have magnitude : Float.abs 0.0 = 0.0 := by decide +kernel
  have notBelow : ¬(0.0 : Double) < 0.0 := by decide +kernel
  have rounded := (isZero_scaled (.inl magnitude) (fits _ first)).roundMagnitude
  refine ⟨ofTokens tokens, (ofTokens tokens).place 0, first, ?_, ?_⟩
  · rw [choose_of_not_lt notBelow, fits.digits?_eq first, rounded]
  · rw [choose_of_not_lt notBelow, if_pos (hasPlaceholders_leading ok first)]
    exact (isZero_place_iff _ (minFraction_le_maxFraction tokens)).mpr rfl

/-- The third section scales and rounds the number itself. -/
theorem format_of_showsZero {zero : NumberSection} (third : f.section? 2 = some zero)
    (currency : String) (finite : x.isFinite = true) (left : f.ShowsZero x)
    (fits : (zero.scaled x.abs).isFinite = true) :
    (f.withCurrency currency).format x =
      zero.render (zero.place (Double.roundMagnitude (zero.scaled x.abs))) false currency := by
  obtain ⟨leading, digits, first, shown, shows_zero⟩ := left
  have rounded : zero.digits? x.abs =
      some (zero.place (Double.roundMagnitude (zero.scaled x.abs))) := if_pos fits
  have shown_by : (f.withCurrency currency).shownBy? x = some (zero, false) := by
    have firstSection : (f.withCurrency currency).section? 0 = some leading := first
    have thirdSection : (f.withCurrency currency).section? 2 = some zero := third
    have chosen : (f.withCurrency currency).choose leading x = f.choose leading x := rfl
    simp only [shownBy?, firstSection, thirdSection, chosen, shown, shows_zero]
  rw [format_eq _ finite, shown_by]
  simp only [rounded]
  rfl

/-- Zero and every number that its own section shows as zero are written by the third section,
    which scales and rounds the number once more. So the number is written like zero if it is
    rounded to zero there as well, or if the section writes nothing of a number at all. -/
theorem zero_section {pattern : String} (ok : ofPattern pattern = .ok f) {zero : NumberSection}
    (third : f.section? 2 = some zero) (fitsZero : f.Fits 0.0) (currency : String)
    (finite : x.isFinite = true) (left : f.ShowsZero x)
    (fits : (zero.scaled x.abs).isFinite = true) :
    let n := Double.roundMagnitude (zero.scaled x.abs)
    (f.withCurrency currency).format x = zero.render (zero.place n) false currency ∧
      (f.withCurrency currency).format 0.0 = zero.render (zero.place 0) false currency ∧
      ((f.withCurrency currency).format x = (f.withCurrency currency).format 0.0 ↔
        n = 0 ∨ zero.hasPlaceholders = false ∧ .point ∉ zero.items) := by
  intro n
  obtain ⟨r⟩ := nonempty_reading pattern
  obtain ⟨tokens, -, compiled⟩ := exists_tokens_of_section? r ok third
  obtain rfl := eq_ofTokens compiled
  have finiteZero : Double.isFinite 0.0 = true := by decide +kernel
  have magnitude : Float.abs 0.0 = 0.0 := by decide +kernel
  have scaledZero := isZero_scaled (.inl magnitude) fits
  have written := format_of_showsZero third currency finite left fits
  have writtenZero := format_of_showsZero third currency finiteZero (showsZero_zero ok fitsZero)
    scaledZero.isFinite
  rw [scaledZero.roundMagnitude] at writtenZero
  refine ⟨written, writtenZero, ?_⟩
  rw [written, writtenZero]
  exact render_eq_zero_iff tokens n currency

/-- Numbers are written without places, and zero with two. -/
def zeroInHundredths : NumberFormat where
  pattern := "0;;0.00"
  sections :=
    [some (ofTokens [(0, .zero)]), none,
      some (ofTokens [(3, .zero), (4, .point), (5, .zero), (6, .zero)])]
  currency := defaultCurrency

theorem showsZero_hundredths {x : Double} (notBelow : ¬x < 0.0)
    (rounded : ((ofTokens [(0, .zero)]).digits? x.abs).map (·.isZero) = some true) :
    zeroInHundredths.ShowsZero x := by
  obtain ⟨digits, shown, zeros⟩ := Option.map_eq_some_iff.mp rounded
  refine ⟨_, digits, rfl, ?_, ?_⟩
  · rw [choose_of_not_lt notBelow, shown]
  · rw [choose_of_not_lt notBelow]
    exact zeros

/-- Digits of a number are left if zero has more places than the number. -/
theorem zero_section_shows_digits :
    ofPattern "0;;0.00" = .ok zeroInHundredths ∧ zeroInHundredths.ShowsZero 0.04 ∧
      zeroInHundredths.format 0.04 = "0.04" ∧ zeroInHundredths.format 0.0 = "0.00" :=
  ⟨rfl, showsZero_hundredths (by decide +kernel) (by decide +kernel), by decide +kernel,
    by decide +kernel⟩

theorem zero_section_hundredths :
    ofPattern "0;;0.00" = .ok zeroInHundredths ∧
      ∃ zero, zeroInHundredths.section? 2 = some zero ∧ zeroInHundredths.Fits 0.0 ∧
        Double.isFinite 0.004 = true ∧ zeroInHundredths.ShowsZero 0.004 ∧
        (zero.scaled (Float.abs 0.004)).isFinite = true ∧
        (zeroInHundredths.withCurrency "$").format 0.004 =
          (zeroInHundredths.withCurrency "$").format 0.0 := by
  have ok : ofPattern "0;;0.00" = .ok zeroInHundredths := rfl
  have third : zeroInHundredths.section? 2 =
      some (ofTokens [(3, .zero), (4, .point), (5, .zero), (6, .zero)]) := rfl
  have fitsZero : zeroInHundredths.Fits 0.0 := by
    intro s found
    obtain rfl := Option.some.inj found
    decide +kernel
  have finite : Double.isFinite 0.004 = true := by decide +kernel
  have left : zeroInHundredths.ShowsZero 0.004 :=
    showsZero_hundredths (by decide +kernel) (by decide +kernel)
  have fits : ((ofTokens [(3, .zero), (4, .point), (5, .zero), (6, .zero)]).scaled
      (Float.abs 0.004)).isFinite = true := by decide +kernel
  obtain ⟨-, -, same⟩ := zero_section ok third fitsZero "$" finite left fits
  exact ⟨ok, _, third, fitsZero, finite, left, fits, same.mpr (.inl (by decide +kernel))⟩

end NumberFormat

end PageMap
