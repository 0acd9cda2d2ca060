import Mathlib.Algebra.Order.Ring.Nat
import Mathlib.Data.List.DropRight
import PageMap.NumberFormat.Section
/-! # The digits of a rounded number

A number that counts units of the last place is split at the point: the digits before it are those
of the quotient by a power of ten, and the digits behind it are those of the remainder. No digit of
the number is lost on the way.
-/

namespace PageMap

/-- The decimal digits of a number without leading zeros. Zero has none. -/
def significantDigits (n : Nat) : List Char :=
  if n = 0 then [] else decimalDigits n

@[simp]
theorem significantDigits_zero : significantDigits 0 = [] :=
  rfl

theorem significantDigits_of_pos {n : Nat} (positive : 0 < n) :
    significantDigits n = significantDigits (n / 10) ++ [Nat.digitChar (n % 10)] := by
  rw [significantDigits, if_neg positive.ne', decimalDigits, Nat.toDigits_eq_if (by decide)]
  split
  case isTrue small =>
    rw [Nat.div_eq_of_lt small, Nat.mod_eq_of_lt small]
    rfl
  case isFalse large =>
    have quotient : n / 10 ≠ 0 := by omega
    rw [significantDigits, if_neg quotient]
    rfl

/-! ### Padding -/

theorem leftpad_significantDigits_succ (length n : Nat) :
    (significantDigits n).leftpad (length + 1) '0' =
      (significantDigits (n / 10)).leftpad length '0' ++ [Nat.digitChar (n % 10)] := by
  rcases Nat.eq_zero_or_pos n with rfl | positive
  · simp only [Nat.zero_div, significantDigits_zero, List.leftpad, List.length_nil, Nat.sub_zero,
      List.append_nil, List.replicate_succ']
    rfl
  · rw [significantDigits_of_pos positive]
    simp only [List.leftpad, List.length_append, List.length_singleton, Nat.add_sub_add_right,
      List.append_assoc]

/-- The last places of a number hold the remainder, those before them the quotient. -/
theorem leftpad_significantDigits_add (length k n : Nat) :
    (significantDigits n).leftpad (length + k) '0' =
      (significantDigits (n / 10 ^ k)).leftpad length '0' ++
        (significantDigits (n % 10 ^ k)).leftpad k '0' := by
  induction k generalizing n with
  | zero => simp [List.leftpad, Nat.mod_one]
  | succ k ih =>
      -- The number and its remainder end in the same digit; the rest is about `n / 10`.
      rw [← Nat.add_assoc, leftpad_significantDigits_succ, ih, leftpad_significantDigits_succ,
        Nat.pow_succ', Nat.mod_mul_right_div_self, Nat.mod_mul_right_mod, Nat.div_div_eq_div_mul,
        List.append_assoc]

theorem length_leftpad_significantDigits_mod (k n : Nat) :
    ((significantDigits (n % 10 ^ k)).leftpad k '0').length = k := by
  induction k generalizing n with
  | zero => simp [List.leftpad, Nat.mod_one]
  | succ k ih =>
      rw [leftpad_significantDigits_succ, Nat.pow_succ', Nat.mod_mul_right_div_self,
        List.length_append, ih, List.length_singleton]

theorem leftpad_decimalDigits (k n : Nat) :
    (decimalDigits n).leftpad (k + 1) '0' = (significantDigits n).leftpad (k + 1) '0' := by
  by_cases zero : n = 0
  · subst zero
    rw [significantDigits_zero, List.leftpad, List.leftpad, List.length_nil, Nat.sub_zero,
      List.append_nil]
    exact List.replicate_succ'.symm
  · rw [significantDigits, if_neg zero]

theorem isDigit_of_mem_leftpad {length n : Nat} {c : Char}
    (member : c ∈ (significantDigits n).leftpad length '0') : c.isDigit = true := by
  rw [List.leftpad, List.mem_append] at member
  rcases member with padding | digit
  · rw [List.eq_of_mem_replicate padding]
    rfl
  · rw [significantDigits] at digit
    split at digit
    · cases digit
    · exact Nat.isDigit_of_mem_toDigits (by decide) (by decide) digit

/-! ### Leading zeros -/

theorem dropWhile_leftpad (length : Nat) (cs : List Char) :
    (cs.leftpad length '0').dropWhile (· = '0') = cs.dropWhile (· = '0') := by
  have zeros (count : Nat) : (List.replicate count '0').dropWhile (· = '0') = [] :=
    List.dropWhile_eq_nil_iff.mpr fun c member => decide_eq_true (List.eq_of_mem_replicate member)
  rw [List.leftpad, List.dropWhile_append, zeros, List.isEmpty_nil, if_pos rfl]

theorem digitChar_ne_zero : ∀ d < 10, 0 < d → Nat.digitChar d ≠ '0' := by
  decide

theorem head?_significantDigits (n : Nat) : (significantDigits n).head? ≠ some '0' := by
  induction n using Nat.strongRecOn with
  | ind n ih =>
      rcases Nat.eq_zero_or_pos n with rfl | positive
      · exact fun none_left => nomatch none_left
      · rw [significantDigits_of_pos positive]
        by_cases small : n < 10
        · rw [Nat.div_eq_of_lt small, Nat.mod_eq_of_lt small]
          exact fun zero => digitChar_ne_zero n small positive (Option.some.inj zero)
        · have quotient : 0 < n / 10 := by omega
          have first := ih (n / 10) (by omega)
          rw [significantDigits_of_pos quotient] at first ⊢
          simpa using first

theorem dropWhile_significantDigits (n : Nat) :
    (significantDigits n).dropWhile (· = '0') = significantDigits n := by
  have first := head?_significantDigits n
  cases digits : significantDigits n with
  | nil => rfl
  | cons c cs =>
      rw [digits] at first
      exact List.dropWhile_cons_of_neg fun zero =>
        first (congrArg some (of_decide_eq_true zero))

/-! ### The number that digits write -/

theorem digitsValue_append_singleton (digits : List Char) (c : Char) :
    digitsValue (digits ++ [c]) = 10 * digitsValue digits + digitValue c := by
  rw [digitsValue, List.foldl_append]
  rfl

theorem digitValue_digitChar : ∀ d < 10, digitValue (Nat.digitChar d) = d := by
  decide

theorem digitsValue_significantDigits (n : Nat) : digitsValue (significantDigits n) = n := by
  induction n using Nat.strongRecOn with
  | ind n ih =>
      rcases Nat.eq_zero_or_pos n with rfl | positive
      · rfl
      · rw [significantDigits_of_pos positive, digitsValue_append_singleton,
          ih (n / 10) (Nat.div_lt_self positive (by decide)),
          digitValue_digitChar _ (Nat.mod_lt n (by decide)), Nat.div_add_mod]

theorem digitsValue_leftpad (length : Nat) (digits : List Char) :
    digitsValue (digits.leftpad length '0') = digitsValue digits := by
  have zeros (count : Nat) : digitsValue (List.replicate count '0') = 0 := by
    induction count with
    | zero => rfl
    | succ count ih => rw [List.replicate_succ', digitsValue_append_singleton, ih]; rfl
  rw [List.leftpad, digitsValue, List.foldl_append]
  exact congrArg (digits.foldl _) (zeros _)

/-! ### Trailing zeros -/

/-- Digits are shown up to trailing zeros, and at least so many of them. -/
structure TrimmedTo (least : Nat) (digits shown : List Char) : Prop where
  zeros : ∃ count, digits = shown ++ List.replicate count '0'
  enough : least ≤ shown.length
  last : least < shown.length → shown.getLast? ≠ some '0'

theorem trimmedTo {least : Nat} {digits : List Char} (enough : least ≤ digits.length) :
    TrimmedTo least digits (digits.take least ++ (digits.drop least).rdropWhile (· = '0')) := by
  have kept : (digits.take least).length = least := List.length_take_of_le enough
  constructor
  case zeros =>
    have zeros (c : Char) (dropped : c ∈ (digits.drop least).rtakeWhile (· = '0')) : c = '0' := by
      simpa using List.mem_rtakeWhile_imp dropped
    refine ⟨((digits.drop least).rtakeWhile (· = '0')).length, ?_⟩
    rw [← List.eq_replicate_of_mem zeros, List.append_assoc, List.rdropWhile_append_rtakeWhile,
      List.take_append_drop]
  case enough =>
    rw [List.length_append, kept]
    exact Nat.le_add_right _ _
  case last =>
    intro more
    have rest : (digits.drop least).rdropWhile (· = '0') ≠ [] := fun none_left => by
      rw [none_left, List.append_nil, kept] at more
      exact Nat.lt_irrefl _ more
    have last := List.rdropWhile_last_not _ _ rest
    rw [List.getLast?_append_of_ne_nil _ rest, List.getLast?_eq_some_getLast rest]
    exact fun zero => last (decide_eq_true (Option.some.inj zero))

/-! ### Commas -/

/-- Digits with a comma behind each one that has a positive multiple of three to its right, if they
    are to be grouped. -/
def withCommas (grouping : Bool) (digits : List Char) : List Char :=
  (digits.mapIdx fun i c =>
    if grouping ∧ 0 < digits.length - 1 - i ∧ (digits.length - 1 - i) % 3 = 0 then [c, ',']
    else [c]).flatten

namespace NumberSection

theorem grouped_eq (grouping : Bool) (digits : List Char) :
    grouped grouping digits = digits.mapIdx fun i c =>
      if grouping ∧ 0 < digits.length - 1 - i ∧ (digits.length - 1 - i) % 3 = 0 then [c, ',']
      else [c] := by
  induction digits with
  | nil => rfl
  | cons c cs ih =>
      have right (i : Nat) : (c :: cs).length - 1 - (i + 1) = cs.length - 1 - i := by
        rw [List.length_cons]
        omega
      rw [grouped, ih, List.mapIdx_cons]
      simp only [right]
      rfl

theorem length_grouped (grouping : Bool) (digits : List Char) :
    (grouped grouping digits).length = digits.length := by
  rw [grouped_eq, List.length_mapIdx]

theorem flatten_grouped (grouping : Bool) (digits : List Char) :
    (grouped grouping digits).flatten = withCommas grouping digits := by
  rw [grouped_eq]
  rfl

/-! ### The digits of a section -/

/-- The digits that a section shows of a number of units of its last place. -/
theorem place_digits (s : NumberSection) (least : s.minFraction ≤ s.maxFraction) (n : Nat) :
    (s.place n).whole = (significantDigits (n / 10 ^ s.maxFraction)).leftpad s.minWhole '0' ∧
      TrimmedTo s.minFraction
        ((significantDigits (n % 10 ^ s.maxFraction)).leftpad s.maxFraction '0')
        (s.place n).fraction := by
  have all : padLeft (s.maxFraction + 1) (decimalDigits n) =
      (significantDigits (n / 10 ^ s.maxFraction)).leftpad 1 '0' ++
        (significantDigits (n % 10 ^ s.maxFraction)).leftpad s.maxFraction '0' := by
    rw [← leftpad_significantDigits_add, Nat.add_comm 1]
    exact leftpad_decimalDigits s.maxFraction n
  have places := length_leftpad_significantDigits_mod s.maxFraction n
  have split : (padLeft (s.maxFraction + 1) (decimalDigits n)).length - s.maxFraction =
      ((significantDigits (n / 10 ^ s.maxFraction)).leftpad 1 '0').length := by
    rw [all, List.length_append, places, Nat.add_sub_cancel]
  constructor
  · simp only [place, split]
    rw [all, List.take_left, dropWhile_leftpad, dropWhile_significantDigits]
    rfl
  · simp only [place, split]
    rw [all, List.drop_left]
    exact trimmedTo (least.trans_eq places.symm)

end NumberSection

end PageMap
