import Mathlib.Algebra.Order.Field.Power
import Mathlib.Algebra.Order.Field.Rat
import Mathlib.Order.Interval.Set.Defs
import Mathlib.Tactic.Linarith
import Mathlib.Tactic.NormNum
import Mathlib.Tactic.Positivity
import Mathlib.Tactic.Ring
import PageMap.Decimal.Basic
/-! # Rounding to the nearest number of a format

The magnitude patterns of a binary format stand for larger and larger numbers. Rounding gives the
pattern whose number is nearest, and the even one of two that are equally near. The pattern of
infinity takes part as the number that would come next, so that whatever lies half a unit or more
above the largest number becomes infinite. `BinaryFormat.value_of_magnitude?` ties the numbers to
the decoder: a finite pattern stands for what it is decoded to.
-/

namespace PageMap

/-- The number of a pattern is nearest among those of some patterns. Of two that are equally near it
    is the one whose pattern is even. -/
structure Nearest (value : ℕ → ℚ) (patterns : Set ℕ) (x : ℚ) (pattern : ℕ) : Prop where
  mem : pattern ∈ patterns
  le : ∀ other ∈ patterns, |x - value pattern| ≤ |x - value other|
  even : ∀ other ∈ patterns, other ≠ pattern →
    |x - value pattern| = |x - value other| → pattern % 2 = 0

theorem Nearest.not_lt {value : ℕ → ℚ} (mono : StrictMono value) {limit : ℕ} {x : ℚ} {p q : ℕ}
    (first : Nearest value (Set.Iic limit) x p) (second : Nearest value (Set.Iic limit) x q) :
    ¬p < q := by
  intro less
  have same : |x - value p| = |x - value q| :=
    le_antisymm (first.le q second.mem) (second.le p first.mem)
  have evenP := first.even q second.mem less.ne' same
  have evenQ := second.even p first.mem less.ne same.symm
  -- Two even patterns have another one between them, and its number is nearer to the middle.
  have between : p + 1 < q := by omega
  have closer := first.le (p + 1) (between.le.trans second.mem)
  have low : value p < value (p + 1) := mono (Nat.lt_succ_self p)
  have high := mono between
  rcases abs_cases (x - value p) with ⟨eqP, signP⟩ | ⟨eqP, signP⟩ <;>
    rcases abs_cases (x - value q) with ⟨eqQ, signQ⟩ | ⟨eqQ, signQ⟩ <;>
    rcases abs_cases (x - value (p + 1)) with ⟨eqM, -⟩ | ⟨eqM, -⟩ <;> linarith

/-- Only one pattern is nearest. -/
theorem Nearest.unique {value : ℕ → ℚ} (mono : StrictMono value) {limit : ℕ} {x : ℚ} {p q : ℕ}
    (first : Nearest value (Set.Iic limit) x p) (second : Nearest value (Set.Iic limit) x q) :
    p = q := by
  have := first.not_lt mono second
  have := second.not_lt mono first
  omega

/-! ### Whole numbers -/

theorem nearest_of_error {x : ℚ} {r : ℕ} (close : |x - r| ≤ 1 / 2)
    (tie : |x - r| = 1 / 2 → r % 2 = 0) : Nearest Nat.cast Set.univ x r := by
  have apart (k : ℕ) (other : k ≠ r) : 1 / 2 ≤ |x - k| := by
    have distance : (1 : ℚ) ≤ |(r : ℚ) - k| := by
      rcases Nat.lt_or_gt_of_ne other with less | greater
      · have step : (k : ℚ) + 1 ≤ r := by exact_mod_cast less
        exact le_abs.mpr (.inl (by linarith))
      · have step : (r : ℚ) + 1 ≤ k := by exact_mod_cast greater
        exact le_abs.mpr (.inr (by linarith))
    have triangle := abs_sub_le (r : ℚ) x k
    rw [abs_sub_comm (r : ℚ) x] at triangle
    linarith
  refine ⟨Set.mem_univ r, fun k _ => ?_, fun k _ other same => ?_⟩
  · by_cases other : k = r
    · rw [other]
    · exact close.trans (apart k other)
  · exact tie (le_antisymm close (same ▸ apart k other))

theorem nearest_divRoundEven (n : ℕ) {d : ℕ} (positive : 0 < d) :
    Nearest Nat.cast Set.univ ((n : ℚ) / d) (divRoundEven n d) := by
  have denominator : (0 : ℚ) < d := by exact_mod_cast positive
  have split : (n : ℚ) / d = (n / d : ℕ) + ((n % d : ℕ) : ℚ) / d := by
    rw [eq_comm, eq_div_iff denominator.ne', add_mul, div_mul_cancel₀ _ denominator.ne']
    exact_mod_cast Nat.div_add_mod' n d
  have small : ((n % d : ℕ) : ℚ) / d < 1 := by
    rw [div_lt_one denominator]
    exact_mod_cast Nat.mod_lt n positive
  have nonneg : (0 : ℚ) ≤ ((n % d : ℕ) : ℚ) / d := by positivity
  have below : 2 * (n % d) < d ↔ ((n % d : ℕ) : ℚ) / d < 1 / 2 := by
    rw [div_lt_div_iff₀ denominator two_pos, one_mul, mul_comm]
    exact_mod_cast Iff.rfl
  have above : d < 2 * (n % d) ↔ 1 / 2 < ((n % d : ℕ) : ℚ) / d := by
    rw [div_lt_div_iff₀ two_pos denominator, one_mul, mul_comm _ (2 : ℚ)]
    exact_mod_cast Iff.rfl
  rw [split, divRoundEven]
  simp only [below, above]
  generalize ((n % d : ℕ) : ℚ) / d = rest at *
  split
  case isTrue down =>
    have error : |((n / d : ℕ) : ℚ) + rest - (n / d : ℕ)| = rest := by
      rw [add_sub_cancel_left, abs_of_nonneg nonneg]
    exact nearest_of_error (error.trans_le down.le) fun tie => absurd (error.symm.trans tie) down.ne
  case isFalse notDown =>
    split
    case isTrue up =>
      have error : |((n / d : ℕ) : ℚ) + rest - (n / d + 1 : ℕ)| = 1 - rest := by
        rw [abs_of_nonpos (by push_cast; linarith)]
        push_cast
        ring
      refine nearest_of_error (by rw [error]; linarith) fun tie => ?_
      rw [error] at tie
      linarith
    case isFalse notUp =>
      obtain rfl : rest = 1 / 2 := le_antisymm (not_lt.mp notUp) (not_lt.mp notDown)
      refine nearest_of_error ?_ fun _ => by omega
      rcases Nat.mod_two_eq_zero_or_one (n / d) with even | odd
      · rw [even, add_zero, add_sub_cancel_left, abs_of_pos (by norm_num)]
      · rw [odd, abs_of_neg (by push_cast; linarith)]
        push_cast
        linarith

theorem Nearest.le_of_lt {w : ℚ} {c k : ℕ} (nearest : Nearest Nat.cast Set.univ w c)
    (above : w < k) : c ≤ k := by
  by_contra! larger
  have closer := nearest.le k (Set.mem_univ k)
  have order : (k : ℚ) < c := by exact_mod_cast larger
  rw [abs_of_neg (by linarith), abs_of_neg (by linarith)] at closer
  linarith

theorem Nearest.ge_of_le {w : ℚ} {c k : ℕ} (nearest : Nearest Nat.cast Set.univ w c)
    (below : k ≤ w) : k ≤ c := by
  by_contra! smaller
  have closer := nearest.le k (Set.mem_univ k)
  have order : (c : ℚ) < k := by exact_mod_cast smaller
  rw [abs_of_pos (by linarith), abs_of_nonneg (by linarith)] at closer
  linarith

/-! ### The numbers of patterns -/

namespace BinaryFormat

/-- The number of a magnitude pattern. The pattern of infinity stands for the number that would come
    next. -/
def value (f : BinaryFormat) (pattern : ℕ) : ℚ :=
  let field := pattern / 2 ^ f.fractionBits
  let fraction := pattern % 2 ^ f.fractionBits
  if field = 0 then fraction * 2 ^ f.minExponent
  else ((fraction + 2 ^ f.fractionBits : ℕ) : ℚ) * 2 ^ (f.minExponent + field - 1)

theorem value_of_magnitude? {f : BinaryFormat} {pattern m : ℕ} {q : ℤ}
    (finite : f.magnitude? pattern = some (m, q)) : f.value pattern = m * 2 ^ q := by
  rw [magnitude?] at finite
  split at finite
  case isFalse => cases finite
  case isTrue =>
    simp only [Nat.pow_eq] at finite
    rw [value]
    split at finite <;> rename_i field <;> obtain ⟨rfl, rfl⟩ := Prod.mk.inj (Option.some.inj finite)
    · simp only [if_pos field]
    · simp only [if_neg field]

variable (f : BinaryFormat)

/-- Behind the first patterns the number of a pattern has a unit that is never left to chance. -/
theorem value_normal (field : ℕ) {fraction : ℕ} (small : fraction < 2 ^ f.fractionBits) :
    f.value ((field + 1) * 2 ^ f.fractionBits + fraction) =
      ((fraction + 2 ^ f.fractionBits : ℕ) : ℚ) * 2 ^ (f.minExponent + field) := by
  have quotient :
      ((field + 1) * 2 ^ f.fractionBits + fraction) / 2 ^ f.fractionBits = field + 1 := by
    rw [Nat.mul_comm, Nat.mul_add_div (Nat.two_pow_pos _), Nat.div_eq_of_lt small, add_zero]
  have rest : ((field + 1) * 2 ^ f.fractionBits + fraction) % 2 ^ f.fractionBits = fraction := by
    rw [Nat.mul_comm, Nat.mul_add_mod, Nat.mod_eq_of_lt small]
  have exponent : f.minExponent + ((field + 1 : ℕ) : ℤ) - 1 = f.minExponent + field := by
    push_cast
    ring
  rw [value, quotient, rest, if_neg (Nat.succ_ne_zero field), exponent]

/-- Patterns count units. The last pattern of a unit is the first one of twice the unit. -/
theorem value_units {u c : ℕ} (least : 2 ^ f.fractionBits ≤ c ∨ u = 0)
    (greatest : c ≤ 2 ^ (f.fractionBits + 1)) :
    f.value (u * 2 ^ f.fractionBits + c) = c * 2 ^ (f.minExponent + u) := by
  rw [pow_succ] at greatest
  rcases Nat.lt_or_ge c (2 ^ f.fractionBits) with small | large
  · obtain rfl : u = 0 := least.resolve_left (by omega)
    rw [zero_mul, zero_add, value, Nat.div_eq_of_lt small, Nat.mod_eq_of_lt small, if_pos rfl,
      Nat.cast_zero, add_zero]
  · rcases greatest.lt_or_eq with within | last
    · have pattern : u * 2 ^ f.fractionBits + c =
          (u + 1) * 2 ^ f.fractionBits + (c - 2 ^ f.fractionBits) := by
        rw [add_mul]
        omega
      rw [pattern, f.value_normal u (by omega), Nat.sub_add_cancel large]
    · have pattern : u * 2 ^ f.fractionBits + c = (u + 1 + 1) * 2 ^ f.fractionBits + 0 := by
        rw [add_mul, add_mul]
        omega
      rw [pattern, f.value_normal (u + 1) (Nat.two_pow_pos _), last, Nat.zero_add, Nat.cast_succ,
        ← add_assoc, zpow_add_one₀ two_ne_zero]
      push_cast
      ring

/-- Every pattern counts a unit. -/
theorem exists_units (pattern : ℕ) : ∃ u c, pattern = u * 2 ^ f.fractionBits + c ∧
    (2 ^ f.fractionBits ≤ c ∨ u = 0) ∧ c < 2 ^ (f.fractionBits + 1) := by
  have small : pattern % 2 ^ f.fractionBits < 2 ^ f.fractionBits :=
    Nat.mod_lt _ (Nat.two_pow_pos _)
  have split := Nat.div_add_mod' pattern (2 ^ f.fractionBits)
  cases field : pattern / 2 ^ f.fractionBits with
  | zero =>
      rw [field, zero_mul, zero_add] at split
      exact ⟨0, pattern, by ring, .inr rfl, by rw [pow_succ]; omega⟩
  | succ u =>
      rw [field, add_mul] at split
      exact ⟨u, 2 ^ f.fractionBits + pattern % 2 ^ f.fractionBits, by omega, .inl (by omega),
        by rw [pow_succ]; omega⟩

theorem value_strictMono : StrictMono f.value := by
  apply strictMono_nat_of_lt_succ
  intro pattern
  obtain ⟨u, c, rfl, least, less⟩ := f.exists_units pattern
  rw [add_assoc, f.value_units least less.le, f.value_units (least.imp_left Nat.le_succ_of_le) less]
  have unit : (0 : ℚ) < 2 ^ (f.minExponent + u) := zpow_pos two_pos _
  exact mul_lt_mul_of_pos_right (by exact_mod_cast Nat.lt_succ_self c) unit

/-- A count of a smaller unit stands for less than the first one of a unit that a normal number has,
    which is at hand for rounding. -/
theorem error_lt_of_smaller {w : ℚ} {u v c d : ℕ} (first : ((2 ^ f.fractionBits : ℕ) : ℚ) ≤ w)
    (count : Nearest Nat.cast Set.univ w c) (smaller : v < u)
    (less : d < 2 ^ (f.fractionBits + 1)) :
    |w - c| * 2 ^ (f.minExponent + u) <
      |w * 2 ^ (f.minExponent + u) - d * 2 ^ (f.minExponent + v)| := by
  have unit : (0 : ℚ) < 2 ^ (f.minExponent + u) := zpow_pos two_pos _
  have close := count.le (2 ^ f.fractionBits) (Set.mem_univ _)
  rw [abs_of_nonneg (sub_nonneg.mpr first)] at close
  have half : (2 : ℚ) ^ (f.minExponent + v) * 2 ≤ 2 ^ (f.minExponent + u) := by
    rw [← zpow_add_one₀ two_ne_zero]
    exact zpow_le_zpow_right₀ one_le_two (by omega)
  have lower : (d : ℚ) * 2 ^ (f.minExponent + v) <
      (2 ^ f.fractionBits : ℕ) * 2 ^ (f.minExponent + u) := by
    have unitOther : (0 : ℚ) < 2 ^ (f.minExponent + v) := zpow_pos two_pos _
    have lessCast : (d : ℚ) < 2 * (2 ^ f.fractionBits : ℕ) := by
      rw [pow_succ, mul_comm] at less
      exact_mod_cast less
    nlinarith
  calc |w - c| * 2 ^ (f.minExponent + u)
      ≤ (w - (2 ^ f.fractionBits : ℕ)) * 2 ^ (f.minExponent + u) :=
        mul_le_mul_of_nonneg_right close unit.le
    _ < w * 2 ^ (f.minExponent + u) - d * 2 ^ (f.minExponent + v) := by
        rw [sub_mul]
        linarith
    _ ≤ _ := le_abs_self _

/-- A count of a larger unit is a count of the unit. -/
theorem count_of_larger {u v : ℕ} (larger : u ≤ v) (d : ℕ) :
    (d : ℚ) * 2 ^ (f.minExponent + v) = (d * 2 ^ (v - u) : ℕ) * 2 ^ (f.minExponent + u) := by
  have exponent : f.minExponent + v = (v - u : ℕ) + (f.minExponent + u) := by omega
  rw [exponent, zpow_add₀ two_ne_zero, zpow_natCast]
  push_cast
  ring

/-- A number is rounded by rounding the count of its unit. Infinity is no different here from other
    patterns. -/
theorem nearest_unbounded (fraction : 0 < f.fractionBits) {w : ℚ} {u c : ℕ}
    (least : ((2 ^ f.fractionBits : ℕ) : ℚ) ≤ w ∨ u = 0)
    (greatest : w < (2 ^ (f.fractionBits + 1) : ℕ)) (count : Nearest Nat.cast Set.univ w c) :
    Nearest f.value Set.univ (w * 2 ^ (f.minExponent + u)) (u * 2 ^ f.fractionBits + c) := by
  have unit : (0 : ℚ) < 2 ^ (f.minExponent + u) := zpow_pos two_pos _
  have here : f.value (u * 2 ^ f.fractionBits + c) = c * 2 ^ (f.minExponent + u) :=
    f.value_units (least.imp_left count.ge_of_le) (count.le_of_lt greatest)
  have error (k : ℚ) : |w * 2 ^ (f.minExponent + u) - k * 2 ^ (f.minExponent + u)| =
      |w - k| * 2 ^ (f.minExponent + u) := by
    rw [← sub_mul, abs_mul, abs_of_pos unit]
  have parity (even : c % 2 = 0) : (u * 2 ^ f.fractionBits + c) % 2 = 0 := by
    have size : 2 ∣ u * 2 ^ f.fractionBits := (dvd_pow_self 2 fraction.ne').mul_left u
    omega
  refine ⟨Set.mem_univ _, fun other _ => ?_, fun other _ distinct same => ?_⟩
  · obtain ⟨v, d, rfl, leastOther, less⟩ := f.exists_units other
    rw [here, error, f.value_units leastOther less.le]
    rcases Nat.lt_or_ge v u with below | above
    · exact (f.error_lt_of_smaller (least.resolve_right (by omega)) count below less).le
    · rw [f.count_of_larger above, error]
      exact mul_le_mul_of_nonneg_right (count.le _ (Set.mem_univ _)) unit.le
  · obtain ⟨v, d, rfl, leastOther, less⟩ := f.exists_units other
    have apart := f.value_strictMono.injective.ne distinct
    rw [here, error, f.value_units leastOther less.le] at same
    rw [here, f.value_units leastOther less.le] at apart
    rcases Nat.lt_or_ge v u with below | above
    · have first := least.resolve_right (by omega)
      exact absurd same (f.error_lt_of_smaller first count below less).ne
    · rw [f.count_of_larger above, error] at same
      rw [f.count_of_larger above] at apart
      refine parity (count.even _ (Set.mem_univ _) (fun equal => apart (by rw [← equal])) ?_)
      exact mul_right_cancel₀ unit.ne' same

end BinaryFormat

/-! ### Rounding a quotient -/

theorem le_floorLog2 {n d : ℕ} (numerator : 0 < n) (denominator : 0 < d) :
    (2 : ℚ) ^ floorLog2 n d ≤ n / d ∧ (n : ℚ) / d < 2 ^ (floorLog2 n d + 1) := by
  have positive : (0 : ℚ) < d := by exact_mod_cast denominator
  have power (k : ℕ) : (0 : ℚ) < 2 ^ k := by positivity
  have nLow : ((2 ^ n.log2 : ℕ) : ℚ) ≤ n := by exact_mod_cast Nat.log2_self_le numerator.ne'
  have nHigh : (n : ℚ) < (2 ^ (n.log2 + 1) : ℕ) := by exact_mod_cast Nat.lt_log2_self
  have dLow : ((2 ^ d.log2 : ℕ) : ℚ) ≤ d := by exact_mod_cast Nat.log2_self_le denominator.ne'
  have dHigh : (d : ℚ) < (2 ^ (d.log2 + 1) : ℕ) := by exact_mod_cast Nat.lt_log2_self
  push_cast at nLow nHigh dLow dHigh
  -- The quotient of the powers below both numbers is off by one at most.
  generalize guessed : (n.log2 : ℤ) - d.log2 = guess
  have above : (n : ℚ) / d < 2 ^ (guess + 1) := by
    have exponent : guess + 1 = ((n.log2 + 1 : ℕ) : ℤ) - d.log2 := by push_cast; omega
    rw [exponent, zpow_sub₀ two_ne_zero, zpow_natCast, zpow_natCast]
    exact div_lt_div₀ nHigh dLow (by positivity) (power _)
  have below : (2 : ℚ) ^ (guess - 1) ≤ n / d := by
    have exponent : guess - 1 = (n.log2 : ℤ) - (d.log2 + 1 : ℕ) := by push_cast; omega
    rw [exponent, zpow_sub₀ two_ne_zero, zpow_natCast, zpow_natCast]
    exact div_le_div₀ (by positivity) nLow positive dHigh.le
  have reached : (if 0 ≤ guess then d * Nat.pow 2 guess.toNat ≤ n
      else d ≤ n * Nat.pow 2 (-guess).toNat) ↔ (2 : ℚ) ^ guess ≤ n / d := by
    rw [le_div_iff₀ positive]
    split
    case isTrue sign =>
      obtain ⟨k, rfl⟩ := Int.eq_ofNat_of_zero_le sign
      rw [Int.toNat_natCast, zpow_natCast, mul_comm]
      exact_mod_cast Iff.rfl
    case isFalse sign =>
      obtain ⟨k, negated⟩ := Int.eq_ofNat_of_zero_le (by omega : 0 ≤ -guess)
      obtain rfl : guess = -(k : ℤ) := by omega
      rw [neg_neg, Int.toNat_natCast, zpow_neg, zpow_natCast, inv_mul_le_iff₀ (power k), mul_comm]
      exact_mod_cast Iff.rfl
  rw [floorLog2]
  simp only [guessed, reached]
  split
  case isTrue here => exact ⟨here, above⟩
  case isFalse here =>
    rw [sub_add_cancel]
    exact ⟨below, not_le.mp here⟩

/-- A quotient is counted in a unit by scaling the numerator or the denominator. -/
theorem nearest_units (n : ℕ) {d : ℕ} (denominator : 0 < d) (unit : ℤ) :
    Nearest Nat.cast Set.univ ((n : ℚ) / d / 2 ^ unit)
      (if 0 ≤ unit then divRoundEven n (d * 2 ^ unit.toNat)
        else divRoundEven (n * 2 ^ (-unit).toNat) d) := by
  split
  case isTrue sign =>
    obtain ⟨k, rfl⟩ := Int.eq_ofNat_of_zero_le sign
    rw [Int.toNat_natCast, zpow_natCast, div_div]
    exact_mod_cast nearest_divRoundEven n (Nat.mul_pos denominator (Nat.two_pow_pos k))
  case isFalse sign =>
    obtain ⟨k, negated⟩ := Int.eq_ofNat_of_zero_le (by omega : 0 ≤ -unit)
    obtain rfl : unit = -(k : ℤ) := by omega
    rw [neg_neg, Int.toNat_natCast, zpow_neg, zpow_natCast, div_inv_eq_mul, div_mul_eq_mul_div]
    exact_mod_cast nearest_divRoundEven (n * 2 ^ k) denominator

/-- What lies above all patterns is rounded to the last one. -/
theorem nearest_limit {value : ℕ → ℚ} (mono : StrictMono value) {limit : ℕ} (even : limit % 2 = 0)
    {x : ℚ} (above : value limit ≤ x) : Nearest value (Set.Iic limit) x limit := by
  refine ⟨Set.mem_Iic.mpr le_rfl, fun other within => ?_, fun _ _ _ _ => even⟩
  have order : value other ≤ value limit := mono.monotone within
  rw [abs_of_nonneg (by linarith), abs_of_nonneg (by linarith)]
  linarith

theorem Nearest.min_limit {value : ℕ → ℚ} (mono : StrictMono value) {limit : ℕ}
    (even : limit % 2 = 0) {x : ℚ} {p : ℕ} (nearest : Nearest value Set.univ x p) :
    Nearest value (Set.Iic limit) x (min p limit) := by
  rcases Nat.lt_or_ge limit p with beyond | within
  · rw [Nat.min_eq_right beyond.le]
    apply nearest_limit mono even
    by_contra! below
    have closer := nearest.le limit (Set.mem_univ _)
    have order : value limit < value p := mono beyond
    rw [abs_of_neg (by linarith), abs_of_neg (by linarith)] at closer
    linarith
  · rw [Nat.min_eq_left within]
    exact ⟨within, fun other _ => nearest.le other (Set.mem_univ _),
      fun other _ => nearest.even other (Set.mem_univ _)⟩

namespace BinaryFormat

/-- A format with a fraction that is not longer than its range of exponents. -/
structure Balanced (f : BinaryFormat) : Prop where
  fraction : 0 < f.fractionBits
  exponent : 0 < f.exponentBits
  fraction_le : f.fractionBits ≤ 2 ^ f.exponentBits

theorem single_balanced : single.Balanced := by
  constructor <;> decide

variable {f : BinaryFormat}

theorem Balanced.infinity_even (balanced : f.Balanced) : f.infinity % 2 = 0 := by
  rw [infinity, Nat.pow_eq, Nat.pow_eq]
  have size : 2 ∣ (2 ^ f.exponentBits - 1) * 2 ^ f.fractionBits :=
    (dvd_pow_self 2 balanced.fraction.ne').mul_left _
  omega

theorem value_zero (f : BinaryFormat) : f.value 0 = 0 := by
  simp [value]

theorem nearest_zero (patterns : Set ℕ) (member : 0 ∈ patterns) : Nearest f.value patterns 0 0 :=
  ⟨member, fun _ _ => by rw [f.value_zero, sub_zero, abs_zero]; exact abs_nonneg _,
    fun _ _ _ _ => rfl⟩

/-- Rounding a quotient gives the nearest pattern up to infinity. -/
theorem Balanced.nearest_nearest (balanced : f.Balanced) (n : ℕ) {d : ℕ} (denominator : 0 < d) :
    Nearest f.value (Set.Iic f.infinity) ((n : ℚ) / d) (f.nearest n d) := by
  rw [nearest]
  split
  case isTrue zero =>
    rw [zero, Nat.cast_zero, zero_div]
    exact nearest_zero _ (Nat.zero_le _)
  case isFalse numerator =>
    obtain ⟨low, high⟩ := le_floorLog2 (Nat.pos_of_ne_zero numerator) denominator
    have positive : (0 : ℚ) < d := by exact_mod_cast denominator
    generalize floorLog2 n d = order at low high
    simp only [Nat.pow_eq]
    generalize unit_eq : max (order - f.fractionBits) f.minExponent = unit
    obtain ⟨u, shift⟩ := Int.eq_ofNat_of_zero_le (by omega : 0 ≤ unit - f.minExponent)
    have exponent : unit = f.minExponent + u := by omega
    have size : (0 : ℚ) < 2 ^ unit := zpow_pos two_pos _
    have count := nearest_units n denominator unit
    generalize (if 0 ≤ unit then divRoundEven n (d * 2 ^ unit.toNat)
      else divRoundEven (n * 2 ^ (-unit).toNat) d) = c at count
    have scaled : (n : ℚ) / d = (n : ℚ) / d / 2 ^ unit * 2 ^ unit :=
      (div_mul_cancel₀ _ size.ne').symm
    have least : ((2 ^ f.fractionBits : ℕ) : ℚ) ≤ (n : ℚ) / d / 2 ^ unit ∨ u = 0 := by
      rcases le_total f.minExponent (order - f.fractionBits) with normal | tiny
      · left
        have whole : order = (f.fractionBits : ℤ) + unit := by omega
        rw [whole, zpow_add₀ two_ne_zero, zpow_natCast] at low
        rw [le_div_iff₀ size]
        exact_mod_cast low
      · right
        omega
    have greatest : (n : ℚ) / d / 2 ^ unit < (2 ^ (f.fractionBits + 1) : ℕ) := by
      rw [div_lt_iff₀ size]
      refine high.trans_le ?_
      push_cast
      rw [← zpow_natCast, ← zpow_add₀ two_ne_zero]
      exact zpow_le_zpow_right₀ one_le_two (by push_cast; omega)
    have unbounded := f.nearest_unbounded balanced.fraction least greatest count
    rw [← exponent, ← scaled] at unbounded
    rw [shift, Int.toNat_natCast]
    exact unbounded.min_limit f.value_strictMono balanced.infinity_even

/-! ### Rounding a decimal -/

theorem minExponent_eq (f : BinaryFormat) :
    f.minExponent = 2 - (2 ^ (f.exponentBits - 1) : ℕ) - f.fractionBits := by
  rw [minExponent, Int.pow_eq]
  push_cast
  rfl

theorem Balanced.value_infinity (balanced : f.Balanced) :
    f.value f.infinity = 2 ^ 2 ^ (f.exponentBits - 1) := by
  have halves : 2 ^ f.exponentBits = 2 ^ (f.exponentBits - 1) + 2 ^ (f.exponentBits - 1) := by
    rw [← Nat.two_pow_pred_add_two_pow_pred balanced.exponent]
  have positive := Nat.two_pow_pos (f.exponentBits - 1)
  have pattern : f.infinity = (2 ^ f.exponentBits - 2 + 1) * 2 ^ f.fractionBits + 0 := by
    rw [infinity, Nat.pow_eq, Nat.pow_eq]
    congr 1
    omega
  have exponent : (f.fractionBits : ℤ) + (f.minExponent + (2 ^ f.exponentBits - 2 : ℕ)) =
      (2 ^ (f.exponentBits - 1) : ℕ) := by
    rw [f.minExponent_eq]
    omega
  rw [pattern, f.value_normal _ (Nat.two_pow_pos _), zero_add, Nat.cast_pow, Nat.cast_ofNat,
    ← zpow_natCast, ← zpow_add₀ two_ne_zero, exponent, zpow_natCast]

theorem nearest_zero_of_lt {x : ℚ} (nonneg : 0 ≤ x) (tiny : 2 * x < f.value 1) :
    Nearest f.value (Set.Iic f.infinity) x 0 := by
  refine ⟨Nat.zero_le _, fun other _ => ?_, fun _ _ _ _ => rfl⟩
  rw [f.value_zero, sub_zero, abs_of_nonneg nonneg]
  rcases Nat.eq_zero_or_pos other with rfl | positive
  · rw [f.value_zero, sub_zero, abs_of_nonneg nonneg]
  · have order : f.value 1 ≤ f.value other := f.value_strictMono.monotone positive
    rw [abs_of_neg (by linarith)]
    linarith

theorem Balanced.value_one (balanced : f.Balanced) : f.value 1 = 2 ^ f.minExponent := by
  have small : 1 < 2 ^ f.fractionBits := Nat.one_lt_two_pow balanced.fraction.ne'
  rw [value, Nat.div_eq_of_lt small, Nat.mod_eq_of_lt small, if_pos rfl, Nat.cast_one, one_mul]

/-- A decimal lies between two powers of ten that its exponent and its count of digits give. -/
theorem decimal_bounds {coefficient : ℕ} (positive : 0 < coefficient) (exponent : ℤ) :
    (10 : ℚ) ^ (exponent + (Nat.toDigits 10 coefficient).length - 1) ≤
        coefficient * 10 ^ exponent ∧
      (coefficient : ℚ) * 10 ^ exponent <
        10 ^ (exponent + (Nat.toDigits 10 coefficient).length) := by
  have length := @Nat.length_toDigits_pos 10 coefficient
  have high := (Nat.length_toDigits_le_iff (by decide) length).mp le_rfl
  have low : 10 ^ ((Nat.toDigits 10 coefficient).length - 1) ≤ coefficient := by
    by_contra! less
    rcases Nat.eq_zero_or_pos ((Nat.toDigits 10 coefficient).length - 1) with single | more
    · rw [single, pow_zero] at less
      omega
    · have shorter := (Nat.length_toDigits_le_iff (by decide) more).mpr less
      omega
  generalize (Nat.toDigits 10 coefficient).length = digits at *
  have ten : (0 : ℚ) < 10 ^ exponent := zpow_pos (by norm_num) exponent
  constructor
  · have split : exponent + digits - 1 = (digits - 1 : ℕ) + exponent := by omega
    rw [split, zpow_add₀ (by norm_num), zpow_natCast]
    exact mul_le_mul_of_nonneg_right (by exact_mod_cast low) ten.le
  · rw [zpow_add₀ (by norm_num), mul_comm, zpow_natCast]
    exact mul_lt_mul_of_pos_left (by exact_mod_cast high) ten

/-- Far below the smallest number of a format everything is rounded to zero. Ten is more than the
    third power of two, so a negative order of ten is reach enough. -/
theorem Balanced.nearest_of_tiny (balanced : f.Balanced) {x : ℚ} (nonneg : 0 ≤ x) {order : ℤ}
    (below : x < 10 ^ order) (tiny : order < -(2 ^ f.exponentBits : ℕ)) :
    Nearest f.value (Set.Iic f.infinity) x 0 := by
  have halves := Nat.two_pow_pred_add_two_pow_pred balanced.exponent
  have shorter := balanced.fraction_le
  have small : (10 : ℚ) ^ order ≤ 2 ^ (f.minExponent - 1) := by
    obtain ⟨k, negated⟩ := Int.eq_ofNat_of_zero_le (by omega : 0 ≤ -order)
    obtain rfl : order = -(k : ℤ) := by omega
    have powers : ((2 : ℚ) ^ (3 * k)) ≤ 10 ^ k := by
      rw [pow_mul]
      exact pow_le_pow_left₀ (by norm_num) (by norm_num) k
    calc (10 : ℚ) ^ (-(k : ℤ)) ≤ 2 ^ (-((3 * k : ℕ) : ℤ)) := by
          rw [zpow_neg, zpow_neg, zpow_natCast, zpow_natCast]
          exact inv_anti₀ (by positivity) powers
      _ ≤ 2 ^ (f.minExponent - 1) := zpow_le_zpow_right₀ one_le_two (by
          rw [f.minExponent_eq]
          omega)
  apply nearest_zero_of_lt nonneg
  rw [balanced.value_one]
  rw [zpow_sub_one₀ two_ne_zero] at small
  linarith

/-- Far above the largest number of a format everything is rounded to infinity. -/
theorem Balanced.nearest_of_huge (balanced : f.Balanced) {x : ℚ} {order : ℤ}
    (above : 10 ^ (order - 1) ≤ x) (huge : (2 ^ f.exponentBits : ℕ) < order) :
    Nearest f.value (Set.Iic f.infinity) x f.infinity := by
  have positive := Nat.two_pow_pos (f.exponentBits - 1)
  have halves := Nat.two_pow_pred_add_two_pow_pred balanced.exponent
  apply nearest_limit f.value_strictMono balanced.infinity_even
  refine le_trans ?_ above
  rw [balanced.value_infinity, ← zpow_natCast]
  calc (2 : ℚ) ^ ((2 ^ (f.exponentBits - 1) : ℕ) : ℤ) ≤ 2 ^ (order - 1) :=
        zpow_le_zpow_right₀ one_le_two (by omega)
    _ ≤ 10 ^ (order - 1) := zpow_le_zpow_left₀ (by omega) (by norm_num) (by norm_num)

/-- Rounding a decimal gives the nearest pattern up to infinity. -/
theorem Balanced.nearest_nearestDecimal (balanced : f.Balanced) (coefficient : ℕ) (exponent : ℤ) :
    Nearest f.value (Set.Iic f.infinity) (coefficient * 10 ^ exponent)
      (f.nearestDecimal coefficient exponent) := by
  rcases Nat.eq_zero_or_pos coefficient with rfl | positive
  · rw [nearestDecimal, if_pos (.inl rfl), Nat.cast_zero, zero_mul]
    exact nearest_zero _ (Nat.zero_le _)
  obtain ⟨above, below⟩ := decimal_bounds positive exponent
  have reach : Int.pow 2 f.exponentBits = (2 ^ f.exponentBits : ℕ) := by
    rw [Int.pow_eq]
    push_cast
    rfl
  rw [nearestDecimal]
  simp only [reach, Nat.pow_eq]
  split
  case isTrue tiny =>
    exact balanced.nearest_of_tiny (by positivity) below (tiny.resolve_left positive.ne')
  case isFalse =>
    split
    case isTrue huge => exact balanced.nearest_of_huge above huge
    case isFalse =>
      split
      case isTrue sign =>
        obtain ⟨k, rfl⟩ := Int.eq_ofNat_of_zero_le sign
        have nearest := balanced.nearest_nearest (coefficient * 10 ^ k) one_pos
        rw [Nat.cast_one, div_one] at nearest
        rw [Int.toNat_natCast, zpow_natCast]
        exact_mod_cast nearest
      case isFalse sign =>
        obtain ⟨k, negated⟩ := Int.eq_ofNat_of_zero_le (by omega : 0 ≤ -exponent)
        obtain rfl : exponent = -(k : ℤ) := by omega
        have denominator : 0 < 10 ^ k := Nat.pow_pos (by decide)
        have nearest := balanced.nearest_nearest coefficient denominator
        rw [neg_neg, Int.toNat_natCast, zpow_neg, zpow_natCast, ← div_eq_mul_inv]
        exact_mod_cast nearest

end BinaryFormat

end PageMap
