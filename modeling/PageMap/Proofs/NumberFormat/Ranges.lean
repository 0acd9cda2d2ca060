import PageMap.Proofs.NumberFormat.Consistency
/-! # Formatting within ranges

A number can also be written by positions: each place finds its digits by the number of places that
were passed before. On the way counts are taken from others, digits are looked up by their index and
split at one, and each of these steps is checked. In a consistent format no check fails, whatever
the number is, and the text is that of `NumberFormat.format`.
-/

namespace PageMap

/-- Why a step by positions has no result. -/
inductive RangeError where
  /-- A count is taken from a smaller one. -/
  | difference
  /-- There is no digit at an index. -/
  | index
  /-- Digits are split at an index beyond their end. -/
  | split
  deriving DecidableEq

namespace NumberSection

/-! ### Checked steps -/

def difference (m n : Nat) : Except RangeError Nat :=
  if n ≤ m then .ok (m - n) else .error .difference

def digitAt (digits : List Char) (i : Nat) : Except RangeError Char :=
  if inside : i < digits.length then .ok digits[i] else .error .index

def splitDigits (digits : List Char) (i : Nat) : Except RangeError (List Char × List Char) :=
  if i ≤ digits.length then .ok (digits.splitAt i) else .error .split

theorem difference_eq {m n : Nat} (le : n ≤ m) : difference m n = .ok (m - n) :=
  if_pos le

theorem digitAt_eq {digits : List Char} {i : Nat} (inside : i < digits.length) :
    digitAt digits i = .ok digits[i] :=
  dif_pos inside

theorem splitDigits_eq {digits : List Char} {i : Nat} (inside : i ≤ digits.length) :
    splitDigits digits i = .ok (digits.take i, digits.drop i) := by
  rw [splitDigits, if_pos inside, List.splitAt_eq]

/-! ### Digits of a number -/

/-- Fills digits up with zeros if there are less than asked for. -/
def checkedPad (length : Nat) (digits : List Char) : Except RangeError (List Char) :=
  if digits.length < length then do
    let missing ← difference length digits.length
    return List.replicate missing '0' ++ digits
  else return digits

/-- The digits of a number that counts units of the last place. -/
def checkedPlace (s : NumberSection) (n : Nat) : Except RangeError RoundedDigits := do
  let all ← checkedPad (s.maxFraction + 1) (decimalDigits n)
  let point ← difference all.length s.maxFraction
  let (front, fraction) ← splitDigits all point
  let whole ← checkedPad s.minWhole (front.dropWhile (· = '0'))
  return ⟨whole, fraction.take s.minFraction ++ dropZerosRight (fraction.drop s.minFraction)⟩

/-- The digits of a magnitude, unless scaling makes it too large. -/
def checkedDigits (s : NumberSection) (magnitude : Double) :
    Except RangeError (Option RoundedDigits) :=
  let x := s.scaled magnitude
  if x.isFinite then do
    let digits ← s.checkedPlace (Double.roundMagnitude x)
    return some digits
  else return none

theorem checkedPad_eq (length : Nat) (digits : List Char) :
    checkedPad length digits = .ok (padLeft length digits) := by
  rw [checkedPad, padLeft]
  split
  case isTrue short =>
    rw [difference_eq short.le]
    rfl
  case isFalse long =>
    rw [Nat.sub_eq_zero_of_le (not_lt.mp long)]
    rfl

theorem checkedPlace_eq (s : NumberSection) (n : Nat) : s.checkedPlace n = .ok (s.place n) := by
  have enough : s.maxFraction ≤ (padLeft (s.maxFraction + 1) (decimalDigits n)).length := by
    rw [padLeft, List.length_append, List.length_replicate]
    omega
  simp only [checkedPlace, checkedPad_eq, bind, Except.bind, difference_eq enough,
    splitDigits_eq (Nat.sub_le _ s.maxFraction)]
  rfl

theorem checkedDigits_eq (s : NumberSection) (magnitude : Double) :
    s.checkedDigits magnitude = .ok (s.digits? magnitude) := by
  rw [checkedDigits, digits?]
  split
  · rw [checkedPlace_eq]
    rfl
  · rfl

/-! ### Items -/

/-- The whole digit at an index with the comma behind it, if there is one. -/
def checkedPiece (grouping : Bool) (whole : List Char) (i : Nat) :
    Except RangeError (List Char) := do
  let c ← digitAt whole i
  let right ← difference (← difference whole.length 1) i
  return if grouping ∧ 0 < right ∧ right % 3 = 0 then [c, ','] else [c]

/-- So many of the first whole digits. -/
def checkedPieces (grouping : Bool) (whole : List Char) : Nat → Except RangeError (List Char)
  | 0 => return []
  | count + 1 => do
      let front ← checkedPieces grouping whole count
      let last ← checkedPiece grouping whole count
      return front ++ last

section Items

variable (s : NumberSection) (digits : RoundedDigits) (currency : List Char)

/-- What an item writes behind so many places before the point and behind it. The first place takes
    all digits for which there is none to the right, any other one at most a digit. -/
def checkedItem (wholeSeen fractionSeen : Nat) : NumberItem → Except RangeError (List Char)
  | .wholeDigit => do
      let right ← difference (← difference s.wholeCount 1) wholeSeen
      if wholeSeen = 0 then checkedPieces s.grouping digits.whole (digits.whole.length - right)
      else if right < digits.whole.length then
        let i ← difference (← difference digits.whole.length 1) right
        checkedPiece s.grouping digits.whole i
      else return []
  | .point => do
      let whole ←
        if s.wholeCount = 0 then checkedPieces s.grouping digits.whole digits.whole.length
        else pure []
      return whole ++ if digits.fraction.isEmpty then [] else ['.']
  | .fractionDigit => return (digits.fraction[fractionSeen]?).toList
  | .currency => return currency
  | .literal text => return text

def checkedItems : Nat → Nat → List NumberItem → Except RangeError (List Char)
  | _, _, [] => return []
  | wholeSeen, fractionSeen, item :: items => do
      let piece ← s.checkedItem digits currency wholeSeen fractionSeen item
      let rest ← checkedItems (if item = .wholeDigit then wholeSeen + 1 else wholeSeen)
        (if item = .fractionDigit then fractionSeen + 1 else fractionSeen) items
      return piece ++ rest

end Items

def checkedRender (s : NumberSection) (digits : RoundedDigits) (negative : Bool)
    (currency : String) : Except RangeError String := do
  let text ← s.checkedItems digits currency.toList 0 0 s.items
  return String.ofList ((if negative then ['-'] else []) ++ text)

theorem checkedPiece_eq (grouping : Bool) {whole : List Char} {i : Nat}
    (inside : i < (grouped grouping whole).length) :
    checkedPiece grouping whole i = .ok (grouped grouping whole)[i] := by
  have bound : i < whole.length := by rwa [length_grouped] at inside
  simp only [checkedPiece, digitAt_eq bound, difference_eq (Nat.one_le_of_lt bound), bind,
    Except.bind, difference_eq (Nat.le_sub_one_of_lt bound), grouped_eq, List.getElem_mapIdx]
  rfl

theorem checkedPieces_eq (grouping : Bool) {whole : List Char} {count : Nat}
    (enough : count ≤ (grouped grouping whole).length) :
    checkedPieces grouping whole count = .ok ((grouped grouping whole).take count).flatten := by
  induction count with
  | zero => rfl
  | succ count ih =>
      rw [checkedPieces, ih (Nat.le_of_succ_le enough), checkedPiece_eq grouping enough,
        List.take_succ_eq_append_getElem enough, List.flatten_append, List.flatten_singleton]
      rfl

theorem checkedPieces_all (grouping : Bool) (whole : List Char) :
    checkedPieces grouping whole whole.length = .ok (grouped grouping whole).flatten := by
  have all := checkedPieces_eq grouping (length_grouped grouping whole).ge
  rwa [← length_grouped grouping whole, List.take_length, length_grouped] at all

section Items

variable (s : NumberSection) (digits : RoundedDigits) (currency : List Char)

/-- A place before the point with so many others to its right. -/
theorem checkedItem_wholeDigit {wholeSeen right : Nat} (room : wholeSeen + (right + 1) = s.wholeCount)
    (fractionSeen : Nat) :
    let whole := grouped s.grouping digits.whole
    s.checkedItem digits currency wholeSeen fractionSeen .wholeDigit =
      .ok (((whole.take (whole.length - right)).drop
        (if right + 1 = s.wholeCount then 0 else whole.length - (right + 1))).flatten) := by
  have behind : difference (s.wholeCount - 1) wholeSeen = .ok right := by
    rw [difference_eq (by omega)]
    congr 1
    omega
  have some_place : 1 ≤ s.wholeCount := by omega
  simp only [checkedItem, difference_eq some_place, bind, Except.bind, behind]
  rw [← length_grouped s.grouping digits.whole]
  split
  case isTrue first =>
    have all : right + 1 = s.wholeCount := by omega
    rw [if_pos all, List.drop_zero, checkedPieces_eq _ (Nat.sub_le _ _)]
  case isFalse later =>
    have other : right + 1 ≠ s.wholeCount := by omega
    rw [if_neg other]
    split
    case isTrue inside =>
      have bound : (grouped s.grouping digits.whole).length - (right + 1) <
          (grouped s.grouping digits.whole).length := by omega
      have stop : (grouped s.grouping digits.whole).length - right =
          (grouped s.grouping digits.whole).length - (right + 1) + 1 := by omega
      rw [difference_eq (Nat.one_le_of_lt inside)]
      simp only [difference_eq (Nat.le_sub_one_of_lt inside)]
      rw [Nat.sub_sub, Nat.add_comm 1, checkedPiece_eq _ bound, stop, List.drop_take,
        Nat.add_sub_cancel_left, List.take_one_drop_eq_of_lt_length bound, List.flatten_singleton]
      rfl
    case isFalse none_left =>
      rw [Nat.sub_eq_zero_of_le (not_lt.mp none_left), List.take_zero, List.drop_nil]
      rfl

theorem checkedItem_point (wholeSeen fractionSeen : Nat) :
    s.checkedItem digits currency wholeSeen fractionSeen .point =
      .ok ((if s.wholeCount = 0 then (grouped s.grouping digits.whole).flatten else []) ++
        if digits.fraction.isEmpty then [] else ['.']) := by
  rw [checkedItem]
  split
  · rw [checkedPieces_all]
    rfl
  · rfl

theorem checkedItem_fractionDigit (wholeSeen fractionSeen : Nat) :
    s.checkedItem digits currency wholeSeen fractionSeen .fractionDigit =
      .ok ((digits.fraction.drop fractionSeen).take 1) := by
  rw [List.take_one, List.head?_drop]
  rfl

/-- As long as the places that are to come are no more than those that are left, and no digit of the
    fraction is passed before the point, items are written by positions as they are by what is left
    to write. -/
theorem checkedItems_eq {items : List NumberItem} {wholeSeen left fractionSeen : Nat}
    (passed : wholeSeen + left = s.wholeCount) (room : items.count .wholeDigit ≤ left)
    (fresh : .point ∈ items → fractionSeen = 0)
    (order : ∀ front behind, items = front ++ .point :: behind → .fractionDigit ∉ front) :
    s.checkedItems digits currency wholeSeen fractionSeen items =
      .ok (renderItems s (grouped s.grouping digits.whole) currency left
        (digits.fraction.drop fractionSeen) items) := by
  induction items generalizing wholeSeen left fractionSeen with
  | nil => rfl
  | cons item items ih =>
      have freshLater (point : .point ∈ items) : fractionSeen = 0 :=
        fresh (List.mem_cons_of_mem _ point)
      have orderLater (front behind : List NumberItem) (split : items = front ++ .point :: behind) :
          .fractionDigit ∉ front :=
        mt (List.mem_cons_of_mem _) (order (item :: front) behind (congrArg _ split))
      rw [checkedItems]
      cases item with
      | wholeDigit =>
          rw [List.count_cons_self] at room
          obtain ⟨right, rfl⟩ := Nat.exists_eq_add_of_le' (Nat.one_le_of_lt room)
          have rest := ih (by omega : wholeSeen + 1 + right = s.wholeCount)
            (Nat.le_of_succ_le_succ room) freshLater orderLater
          rw [checkedItem_wholeDigit s digits currency passed]
          simp only [if_true, reduceCtorEq, if_false, rest, bind, Except.bind]
          rfl
      | point =>
          obtain rfl := fresh List.mem_cons_self
          rw [checkedItem_point]
          simp only [reduceCtorEq, if_false, ih passed room freshLater orderLater, bind,
            Except.bind]
          rfl
      | fractionDigit =>
          -- Behind a digit of the fraction there is no point any more.
          have freshBehind (point : .point ∈ items) : fractionSeen + 1 = 0 := by
            obtain ⟨front, behind, split⟩ := List.append_of_mem point
            have none_before := order (.fractionDigit :: front) behind (congrArg _ split)
            exact absurd List.mem_cons_self none_before
          rw [checkedItem_fractionDigit]
          simp only [reduceCtorEq, if_false, if_true, ih passed room freshBehind orderLater, bind,
            Except.bind]
          rw [← List.drop_drop]
          rfl
      | currency | literal =>
          simp only [checkedItem, reduceCtorEq, if_false, ih passed room freshLater orderLater,
            bind, Except.bind]
          rfl

end Items

theorem checkedRender_eq {s : NumberSection} (consistent : s.Consistent) (digits : RoundedDigits)
    (negative : Bool) (currency : String) :
    s.checkedRender digits negative currency = .ok (s.render digits negative currency) := by
  rw [checkedRender, s.checkedItems_eq digits currency.toList (Nat.zero_add s.wholeCount)
    consistent.wholeCount.le (fun _ => rfl) consistent.before_point]
  rfl

/-- A section that has more places than it counts is found out. -/
example : checkedRender { decimal with wholeCount := 1 } ⟨['4', '2'], []⟩ false "$" =
    .error .difference := rfl

end NumberSection

/-! ### Numbers -/

namespace NumberFormat

open NumberSection

/-- The text of a number, by positions. -/
def checkedFormat (f : NumberFormat) (x : Double) : Except RangeError String :=
  match f.section? 0 with
  | none => return x.text
  | some positive =>
      if !x.isFinite then return x.text
      else do
        let magnitude := x.abs
        let (chosen, ownSign) := f.choose positive x
        match ← chosen.checkedDigits magnitude with
        | none => return x.text
        | some digits =>
            let showsZero := if chosen.hasPlaceholders then digits.isZero else magnitude == 0.0
            match f.section? 2 with
            | some zero =>
                if showsZero then
                  match ← zero.checkedDigits magnitude with
                  | some zeroDigits => zero.checkedRender zeroDigits false f.currency
                  | none => return x.text
                else chosen.checkedRender digits (x < 0.0 && !ownSign) f.currency
            | none => chosen.checkedRender digits (x < 0.0 && !ownSign && !showsZero) f.currency

theorem Consistent.of_section? {f : NumberFormat} (consistent : f.Consistent) {index : Nat}
    {s : NumberSection} (found : f.section? index = some s) : s.Consistent :=
  consistent.each s (List.mem_of_getElem? (Option.join_eq_some_iff.mp found))

theorem checkedFormat_eq {f : NumberFormat} (consistent : f.Consistent) (x : Double) :
    f.checkedFormat x = .ok (f.format x) := by
  rw [checkedFormat, format]
  cases first : f.section? 0 with
  | none => rfl
  | some positive =>
      obtain ⟨index, found⟩ := exists_section_choose first x
      have written := checkedRender_eq (consistent.of_section? found)
      simp only [checkedDigits_eq, bind, Except.bind]
      split
      · rfl
      · cases (f.choose positive x).1.digits? x.abs with
        | none => rfl
        | some digits =>
            cases third : f.section? 2 with
            | none => exact written digits _ f.currency
            | some zero =>
                simp only [written, checkedRender_eq (consistent.of_section? third)]
                -- Whether zeros are shown is decided in the same way on both sides.
                generalize (if (f.choose positive x).1.hasPlaceholders = true then digits.isZero
                  else x.abs == 0.0) = showsZero
                cases showsZero with
                | true => cases zero.digits? x.abs <;> rfl
                | false => rfl

/-- Formats are consistent, and with one that is no number is out of range: by positions it has the
    text that formatting gives. -/
theorem format_in_range {f : NumberFormat}
    (origin : (∃ pattern, ofPattern pattern = .ok f) ∨ f = decimal) (currency : String) :
    f.Consistent ∧
      ∀ x, (f.withCurrency currency).checkedFormat x =
        .ok ((f.withCurrency currency).format x) := by
  have accepted : ∃ pattern, ofPattern pattern = .ok f := by
    rcases origin with accepted | rfl
    · exact accepted
    · exact ⟨"#,##0.###", rfl⟩
  obtain ⟨pattern, accepted⟩ := accepted
  have consistent := consistent_of_ofPattern accepted
  exact ⟨consistent, checkedFormat_eq ⟨consistent.sections_pos, consistent.sections_le,
    consistent.leading, consistent.each⟩⟩

theorem format_in_range_grouped :
    ∃ f, ofPattern "¤#,#\\x0.0#;;'none'" = .ok f ∧ f.Consistent ∧
      (f.withCurrency "€").checkedFormat (-1234567.25) = .ok "-€1,234,56x7.25" := by
  have shown : (ofPattern "¤#,#\\x0.0#;;'none'").toOption.map (fun f =>
      (f.withCurrency "€").format (-1234567.25)) = some "-€1,234,56x7.25" := by
    decide +kernel
  cases accepted : ofPattern "¤#,#\\x0.0#;;'none'" with
  | error e =>
      rw [accepted] at shown
      cases shown
  | ok f =>
      rw [accepted] at shown
      obtain ⟨consistent, inRange⟩ := format_in_range (.inl ⟨_, accepted⟩) "€"
      exact ⟨f, rfl, consistent,
        (inRange (-1234567.25)).trans (congrArg _ (Option.some.inj shown))⟩

end NumberFormat

end PageMap
