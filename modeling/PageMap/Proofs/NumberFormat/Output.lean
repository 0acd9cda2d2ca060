import PageMap.Proofs.NumberFormat.Compiled
import PageMap.Proofs.NumberFormat.Digits
/-! # What a formatted number shows

The text of a number is a sign and a piece for each item of the section that writes the number.
Without the pieces that are texts of the pattern or currency signs it holds each digit of the
rounded number once and in order, whatever the placeholders are.
-/

namespace PageMap

/-- The text of an item that is no place for digits. -/
def NumberItem.fixedText? (currency : List Char) : NumberItem → Option (List Char)
  | .currency => some currency
  | .literal text => some text
  | .wholeDigit | .fractionDigit | .point => none

/-- A text is made of a piece for each item, and what it leaves without the pieces that are fixed
    texts. -/
inductive Leaves (currency : List Char) : List NumberItem → List Char → List Char → Prop where
  | nil : Leaves currency [] [] []
  | fixed {item : NumberItem} {items : List NumberItem} {fixed text digits : List Char} :
      item.fixedText? currency = some fixed → Leaves currency items text digits →
      Leaves currency (item :: items) (fixed ++ text) digits
  | digits {item : NumberItem} {items : List NumberItem} {piece text digits : List Char} :
      item.fixedText? currency = none → Leaves currency items text digits →
      Leaves currency (item :: items) (piece ++ text) (piece ++ digits)

/-- Nothing else is in a text than its fixed texts and what it leaves. -/
theorem Leaves.perm {currency : List Char} {items : List NumberItem} {text digits : List Char}
    (leaves : Leaves currency items text digits) :
    text.Perm ((items.filterMap (·.fixedText? currency)).flatten ++ digits) := by
  induction leaves with
  | nil => exact .nil
  | fixed stands _ ih =>
      rw [List.filterMap_cons_some stands, List.flatten_cons, List.append_assoc]
      exact ih.append_left _
  | @digits item items piece text digits none _ ih =>
      rw [List.filterMap_cons_none none]
      exact (ih.append_left piece).trans (List.perm_append_comm_assoc _ _ _)

namespace NumberSection

/-! ### Items -/

section Items

variable (s : NumberSection) (whole : List (List Char)) (currency : List Char)

/-- The digits before the point that are not written while so many placeholders are left. -/
def pending (left : Nat) : List (List Char) :=
  whole.drop (if left = s.wholeCount then 0 else whole.length - left)

/-- A placeholder writes the digits that are pending no longer behind it. -/
theorem pending_succ {left : Nat} (room : left < s.wholeCount) :
    (whole.take (whole.length - left)).drop
        (if left + 1 = s.wholeCount then 0 else whole.length - (left + 1)) ++
      s.pending whole left = s.pending whole (left + 1) := by
  have start : (if left + 1 = s.wholeCount then 0 else whole.length - (left + 1)) ≤
      (whole.take (whole.length - left)).length := by
    rw [List.length_take_of_le (Nat.sub_le _ _)]
    split <;> omega
  rw [pending, pending, if_neg room.ne, ← List.drop_append_of_le_length start,
    List.take_append_drop]

theorem pending_all : s.pending whole s.wholeCount = whole := by
  rw [pending, if_pos rfl, List.drop_zero]

/-- Once all placeholders are passed, digits are pending only if there are no placeholders. -/
theorem pending_zero : s.pending whole 0 = if s.wholeCount = 0 then whole else [] := by
  rw [pending, Nat.sub_zero]
  by_cases places : s.wholeCount = 0
  · rw [if_pos places.symm, if_pos places, List.drop_zero]
  · rw [if_neg (Ne.symm places), if_neg places, List.drop_length]

variable {whole currency}

/-- Behind the point each placeholder takes a digit while there are digits. -/
theorem renderItems_behind {behind : List NumberItem}
    (order : ∀ item ∈ behind, item ≠ .point ∧ item ≠ .wholeDigit) (left : Nat)
    (fraction : List Char) :
    Leaves currency behind (renderItems s whole currency left fraction behind)
      (fraction.take (behind.count .fractionDigit)) := by
  induction behind generalizing fraction with
  | nil => exact .nil
  | cons item rest ih =>
      obtain ⟨⟨noPoint, noWhole⟩, later⟩ := List.forall_mem_cons.mp order
      cases item with
      | wholeDigit => exact absurd rfl noWhole
      | point => exact absurd rfl noPoint
      | fractionDigit =>
          rw [List.count_cons_self, Nat.add_comm, List.take_add]
          exact .digits rfl (ih later _)
      | currency => exact .fixed rfl (ih later fraction)
      | literal text => exact .fixed rfl (ih later fraction)

/-- Before the point the placeholders take all digits that are pending. -/
theorem renderItems_front {front rest : List NumberItem}
    (order : ∀ item ∈ front, item ≠ .point ∧ item ≠ .fractionDigit) {fraction after : List Char}
    (behind : Leaves currency rest (renderItems s whole currency 0 fraction rest)
      ((s.pending whole 0).flatten ++ after))
    (room : front.count .wholeDigit ≤ s.wholeCount) :
    Leaves currency (front ++ rest)
      (renderItems s whole currency (front.count .wholeDigit) fraction (front ++ rest))
      ((s.pending whole (front.count .wholeDigit)).flatten ++ after) := by
  induction front with
  | nil => exact behind
  | cons item front ih =>
      obtain ⟨⟨noPoint, noFraction⟩, later⟩ := List.forall_mem_cons.mp order
      cases item with
      | point => exact absurd rfl noPoint
      | fractionDigit => exact absurd rfl noFraction
      | wholeDigit =>
          -- What is pending before the placeholder is its piece and what is pending behind it.
          rw [List.count_cons_self] at room ⊢
          rw [← pending_succ s whole room, List.flatten_append, List.append_assoc]
          exact .digits rfl (ih later (Nat.le_of_lt room))
      | currency => exact .fixed rfl (ih later room)
      | literal text => exact .fixed rfl (ih later room)

/-- All items together leave all digits. -/
theorem renderItems_leaves {count : Nat} {items : List NumberItem}
    (arranged : Arranged s.wholeCount count items) (places : 0 < s.wholeCount + count)
    {fraction : List Char} (room : fraction.length ≤ count) :
    Leaves currency items (renderItems s whole currency s.wholeCount fraction items)
      (whole.flatten ++ if fraction = [] then [] else '.' :: fraction) := by
  cases arranged with
  | whole order wholePlaces =>
      obtain rfl := List.eq_nil_of_length_eq_zero (Nat.le_zero.mp room)
      have behind : Leaves currency [] (renderItems s whole currency 0 [] [])
          ((s.pending whole 0).flatten ++ []) := by
        have filled : s.wholeCount ≠ 0 := places.ne'
        rw [pending_zero, if_neg filled]
        exact .nil
      have front := renderItems_front s order behind wholePlaces.le
      rwa [wholePlaces, pending_all, List.append_nil items] at front
  | @point front behind order wholePlaces orderBehind =>
      have written : Leaves currency behind (renderItems s whole currency 0 fraction behind)
          fraction := by
        simpa only [List.take_of_length_le room] using
          renderItems_behind s orderBehind 0 fraction
      have point : Leaves currency (.point :: behind)
          (renderItems s whole currency 0 fraction (.point :: behind))
          ((s.pending whole 0).flatten ++ if fraction = [] then [] else '.' :: fraction) := by
        have digits :
            (s.pending whole 0).flatten ++ (if fraction = [] then [] else '.' :: fraction) =
              (if s.wholeCount = 0 then whole.flatten else []) ++
                (if fraction.isEmpty then [] else ['.']) ++ fraction := by
          rw [pending_zero]
          cases fraction <;> split <;> simp
        rw [digits]
        exact .digits rfl written
      have front := renderItems_front s order point wholePlaces.le
      rwa [wholePlaces, pending_all] at front

end Items

theorem length_fraction_place (s : NumberSection) (least : s.minFraction ≤ s.maxFraction) (n : Nat) :
    (s.place n).fraction.length ≤ s.maxFraction := by
  obtain ⟨-, fraction⟩ := s.place_digits least n
  obtain ⟨count, zeros⟩ := fraction.zeros
  have length := length_leftpad_significantDigits_mod s.maxFraction n
  rw [zeros, List.length_append] at length
  exact (Nat.le_add_right _ _).trans_eq length

/-- The text of digits behind a sign leaves the digits. -/
theorem render_leaves (s : NumberSection) (arranged : Arranged s.wholeCount s.maxFraction s.items)
    (places : s.hasPlaceholders = true) {digits : RoundedDigits}
    (room : digits.fraction.length ≤ s.maxFraction) (currency : String) :
    ∃ text,
      (∀ sign, s.render digits sign currency =
        String.ofList ((if sign then ['-'] else []) ++ text)) ∧
      Leaves currency.toList s.items text
        (withCommas s.grouping digits.whole ++
          if digits.fraction = [] then [] else '.' :: digits.fraction) := by
  refine ⟨_, fun _ => rfl, ?_⟩
  rw [← flatten_grouped]
  exact s.renderItems_leaves arranged (of_decide_eq_true places) room

/-- What a section writes of a number of units of its last place. -/
theorem render_place (s : NumberSection) (arranged : Arranged s.wholeCount s.maxFraction s.items)
    (least : s.minFraction ≤ s.maxFraction) (places : s.hasPlaceholders = true) (n : Nat)
    (sign : Bool) (currency : String) :
    ∃ fraction text,
      TrimmedTo s.minFraction
        ((significantDigits (n % 10 ^ s.maxFraction)).leftpad s.maxFraction '0') fraction ∧
      s.render (s.place n) sign currency =
        String.ofList ((if sign then ['-'] else []) ++ text) ∧
      Leaves currency.toList s.items text
        (withCommas s.grouping
            ((significantDigits (n / 10 ^ s.maxFraction)).leftpad s.minWhole '0') ++
          if fraction = [] then [] else '.' :: fraction) := by
  obtain ⟨whole, fraction⟩ := s.place_digits least n
  obtain ⟨text, written, leaves⟩ :=
    s.render_leaves arranged places (s.length_fraction_place least n) currency
  rw [whole] at leaves
  exact ⟨(s.place n).fraction, text, fraction, written sign, leaves⟩

end NumberSection

/-! ### Numbers -/

namespace NumberFormat

open NumberSection

/-- The section that writes a number and whether a sign stands in front of it; none if the number
    has its plain text. -/
def shownBy? (f : NumberFormat) (x : Double) : Option (NumberSection × Bool) :=
  match f.section? 0 with
  | none => none
  | some positive =>
      let (chosen, ownSign) := f.choose positive x
      match chosen.digits? x.abs with
      | none => none
      | some digits =>
          let showsZero := if chosen.hasPlaceholders then digits.isZero else x.abs == 0.0
          match f.section? 2, showsZero with
          | some zero, true => some (zero, false)
          | _, _ => some (chosen, x < 0.0 && !ownSign && !showsZero)

/-- Formatting chooses a section and lets it write the number. -/
theorem format_eq (f : NumberFormat) {x : Double} (finite : x.isFinite = true) :
    f.format x = match f.shownBy? x with
      | none => x.text
      | some (s, sign) => match s.digits? x.abs with
        | none => x.text
        | some digits => s.render digits sign f.currency := by
  rw [format, shownBy?]
  cases f.section? 0 with
  | none => rfl
  | some positive =>
      simp only [finite, Bool.not_true, Bool.false_eq_true, if_false]
      cases chosen : (f.choose positive x).1.digits? x.abs with
      | none => rfl
      | some digits =>
          simp only
          -- How zero is recognised makes no difference for the choice.
          generalize (if (f.choose positive x).1.hasPlaceholders = true then digits.isZero
            else x.abs == 0.0) = showsZero
          cases f.section? 2 with
          | none => simp [chosen]
          | some zero =>
              cases showsZero with
              | true => cases shown : zero.digits? x.abs <;> simp [shown]
              | false => simp [chosen]

theorem exists_section_choose {f : NumberFormat} {positive : NumberSection}
    (first : f.section? 0 = some positive) (x : Double) :
    ∃ index, f.section? index = some (f.choose positive x).1 := by
  rw [choose]
  split
  case h_1 negative second => split <;> [exact ⟨1, second⟩; exact ⟨0, first⟩]
  case h_2 => exact ⟨0, first⟩

theorem exists_section_of_shownBy? {f : NumberFormat} {x : Double} {s : NumberSection}
    {sign : Bool} (shown : f.shownBy? x = some (s, sign)) :
    ∃ index, f.section? index = some s := by
  rw [shownBy?] at shown
  cases first : f.section? 0 with
  | none => simp [first] at shown
  | some positive =>
      simp only [first] at shown
      split at shown
      · cases shown
      · split at shown
        case h_1 zero third _ =>
          obtain ⟨rfl, -⟩ := Prod.mk.inj (Option.some.inj shown)
          exact ⟨2, third⟩
        case h_2 =>
          obtain ⟨rfl, -⟩ := Prod.mk.inj (Option.some.inj shown)
          exact exists_section_choose first x

/-- A formatted number reads back as the rounded number. Let `n` be the magnitude counted in units
    of the last of `k` places. Without the pieces that texts and currency signs contribute, the
    output is the sign and then the digits of `n / 10 ^ k`, with zeros for the places from the first
    `0` on and with commas if the section groups, and, if any digit of the fraction is shown, the
    point and the `k` digits of `n % 10 ^ k` without zeros at the end that come after the last
    `0`. -/
theorem format_reads_back {pattern : String} (r : NumberToken.Reading pattern) {f : NumberFormat}
    (accepted : ofPattern pattern = .ok f) (currency : String) {x : Double}
    (finite : x.isFinite = true) {s : NumberSection} {sign : Bool}
    (shown : f.shownBy? x = some (s, sign)) (digits : s.hasPlaceholders = true)
    (fits : (s.scaled x.abs).isFinite = true) :
    ∃ index tokens, r.sections[index]? = some tokens ∧
      NumberSection.compile (index = 0) tokens = .ok s ∧
      let wholePlaces := placeholders (wholeTokens tokens)
      let fractionPlaces := placeholders (pointTokens tokens)
      let k := fractionPlaces.length
      let n := Double.roundMagnitude (s.scaled x.abs)
      let whole :=
        (significantDigits (n / 10 ^ k)).leftpad (wholePlaces.dropWhile (· ≠ .zero)).length '0'
      let places := (significantDigits (n % 10 ^ k)).leftpad k '0'
      (∃ fraction text,
        TrimmedTo (fractionPlaces.rdropWhile (· ≠ .zero)).length places fraction ∧
        (f.withCurrency currency).format x =
          String.ofList ((if sign then ['-'] else []) ++ text) ∧
        Leaves currency.toList s.items text
          (withCommas s.grouping whole ++ if fraction = [] then [] else '.' :: fraction)) ∧
      places.length = k ∧ digitsValue whole * 10 ^ k + digitsValue places = n := by
  obtain ⟨index, found⟩ := exists_section_of_shownBy? shown
  obtain ⟨tokens, isSection, compiled⟩ := exists_tokens_of_section? r accepted found
  obtain rfl := eq_ofTokens compiled
  refine ⟨index, tokens, isSection, compiled, ?_, length_leftpad_significantDigits_mod _ _, ?_⟩
  · obtain ⟨fraction, text, trimmed, written, leaves⟩ := (ofTokens tokens).render_place
      (ofTokens_arranged tokens) (minFraction_le_maxFraction tokens) digits
      (Double.roundMagnitude ((ofTokens tokens).scaled x.abs)) sign currency
    refine ⟨fraction, text, ?_, ?_, leaves⟩
    · rw [List.rdropWhile, List.length_reverse]
      exact trimmed
    · have rounded : (ofTokens tokens).digits? x.abs =
          some ((ofTokens tokens).place (Double.roundMagnitude ((ofTokens tokens).scaled x.abs))) :=
        if_pos fits
      have shown : (f.withCurrency currency).shownBy? x = some (ofTokens tokens, sign) := shown
      rw [format_eq _ finite, shown]
      simp only [rounded]
      exact written
  · simp only [digitsValue_leftpad, digitsValue_significantDigits]
    exact Nat.div_add_mod' _ _

theorem format_reads_back_decimal :
    ofPattern "#,##0.###" = .ok decimal ∧ Double.isFinite (-1234.5) = true ∧
      decimal.shownBy? (-1234.5) = some (.decimal, true) ∧
      NumberSection.decimal.hasPlaceholders = true ∧
      (NumberSection.decimal.scaled (Float.abs (-1234.5))).isFinite = true ∧
      ∃ fraction text, TrimmedTo 0 ['5', '0', '0'] fraction ∧
        (decimal.withCurrency "€").format (-1234.5) = String.ofList ('-' :: text) ∧
        Leaves ['€'] NumberSection.decimal.items text
          (['1', ',', '2', '3', '4'] ++ if fraction = [] then [] else '.' :: fraction) := by
  have accepted : ofPattern "#,##0.###" = .ok decimal := rfl
  have finite : Double.isFinite (-1234.5) = true := by decide +kernel
  have fits : (NumberSection.decimal.scaled (Float.abs (-1234.5))).isFinite = true := by
    decide +kernel
  have units : Double.roundMagnitude (NumberSection.decimal.scaled (Float.abs (-1234.5))) =
      1234500 := by
    decide +kernel
  have rounded : NumberSection.decimal.digits? (Float.abs (-1234.5)) =
      some ⟨['1', '2', '3', '4'], ['5']⟩ := by
    decide +kernel
  have negative : (-1234.5 : Double) < 0.0 := by decide +kernel
  have shown : decimal.shownBy? (-1234.5) = some (.decimal, true) := by
    have places : NumberSection.decimal.hasPlaceholders = true := rfl
    simp [shownBy?, decimal, section?, choose, rounded, negative, RoundedDigits.isZero, places]
  refine ⟨accepted, finite, shown, rfl, fits, ?_⟩
  obtain ⟨r⟩ := NumberToken.nonempty_reading "#,##0.###"
  obtain ⟨index, tokens, -, compiled, ⟨fraction, text, trimmed, written, leaves⟩, -⟩ :=
    format_reads_back r accepted "€" finite shown rfl fits
  have same := eq_ofTokens compiled
  have places : (placeholders (pointTokens tokens)).length = 3 :=
    (congrArg NumberSection.maxFraction same).symm
  have least : ((placeholders (wholeTokens tokens)).dropWhile (· ≠ .zero)).length = 1 :=
    (congrArg NumberSection.minWhole same).symm
  have leastFraction : ((placeholders (pointTokens tokens)).rdropWhile (· ≠ .zero)).length = 0 := by
    rw [List.rdropWhile, List.length_reverse]
    exact (congrArg NumberSection.minFraction same).symm
  rw [places, leastFraction, units] at trimmed
  rw [places, least, units] at leaves
  exact ⟨fraction, text, trimmed, written, leaves⟩

end NumberFormat

end PageMap
