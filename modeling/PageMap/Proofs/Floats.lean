import Mathlib
import PageMap.Double
import PageMap.Proofs.Decimal.Nearest
/-! # Single and double precision

Floats are kept as bits. The bits of a decimal that is read are its sign and the nearest magnitude.
The opposite of a number has the same bits but for the sign. A product is finite only if its factors
are, and zero times a finite number is zero. To add zero changes minus zero and nothing else.
-/

namespace PageMap

/-! ### Bits -/

/-- Numbers that are kept as the bits of a format. -/
class Packed (α : Type) (format : outParam Float.Model.Format) where
  bits : α → BitVec format.numBits
  eq_of_bits {x y : α} : bits x = bits y → x = y
  /-- What is no number has one pattern of bits only. -/
  valid (x : α) : format.Valid (bits x)

namespace Packed

open Float.Model

instance : Packed Single Format.binary32 where
  bits x := x.toModel.toBits.toBitVec
  eq_of_bits same := Float32.toBits_inj.mp (UInt32.toBitVec_inj.mp same)
  valid x := x.toModel.valid

instance : Packed Double Format.binary64 where
  bits x := x.toModel.toBits.toBitVec
  eq_of_bits same := Float.toBits_inj.mp (UInt64.toBitVec_inj.mp same)
  valid x := x.toModel.valid

end Packed

/-! ### Rounding to single precision -/

namespace Single

open Float.Model Float.Model.UnpackedFloat

/-- A pattern of a magnitude up to infinity, with a sign or without, is kept as it is. -/
theorem toBits_ofPattern {pattern : ℕ} (range : pattern < 2 ^ 32)
    (number : pattern % 2 ^ 31 ≤ BinaryFormat.single.infinity) :
    (ofPattern pattern).toBits.toNat = pattern := by
  have bits : pattern.toUInt32.toNat = pattern := Nat.mod_eq_of_lt range
  have valid : Format.binary32.Valid pattern.toUInt32.toBitVec := by
    constructor
    intro exponent mantissa
    have field := congrArg BitVec.toNat exponent
    have fraction := mt BitVec.toNat_inj.mp mantissa
    simp [unpackExponent, unpackMantissa, bits, Nat.shiftRight_eq_div_pow] at field fraction
    have infinite : BinaryFormat.single.infinity = 255 * 2 ^ 23 := rfl
    omega
  have kept := pack_unpack_of_valid valid
  exact (congrArg BitVec.toNat kept).trans bits

/-- A single is what a number with a sign is rounded to. The sign of zero is kept. -/
structure Rounds (x : Single) (negative : Bool) (size : ℚ) : Prop where
  sign : x.negative = negative
  nearest :
    Nearest BinaryFormat.single.value (Set.Iic BinaryFormat.single.infinity) size x.magnitude

theorem rounds_ofDecimal (d : Decimal) :
    (ofDecimal d).Rounds d.negative (d.coefficient * 10 ^ d.exponent) := by
  have nearest :=
    BinaryFormat.single_balanced.nearest_nearestDecimal d.coefficient d.exponent
  have within : BinaryFormat.single.nearestDecimal d.coefficient d.exponent ≤ 255 * 2 ^ 23 :=
    nearest.mem
  have infinite : BinaryFormat.single.infinity = 255 * 2 ^ 23 := rfl
  have signBit : BinaryFormat.single.signBit = 2 ^ 31 := rfl
  have bits : (ofDecimal d).toBits.toNat =
      BinaryFormat.single.nearestDecimal d.coefficient d.exponent +
        if d.negative then 2 ^ 31 else 0 := by
    apply toBits_ofPattern
    · rw [Decimal.pattern, signBit]
      split <;> omega
    · rw [Decimal.pattern, signBit, infinite]
      split <;> omega
  constructor
  · rw [negative, bits, signBit]
    cases d.negative <;> simp
    omega
  · have magnitude : (ofDecimal d).magnitude =
        BinaryFormat.single.nearestDecimal d.coefficient d.exponent := by
      rw [magnitude, bits, signBit]
      split <;> omega
    rwa [magnitude]

/-- A number with a sign is rounded to one single only. -/
theorem Rounds.unique {x y : Single} {sign : Bool} {size : ℚ} (first : x.Rounds sign size)
    (second : y.Rounds sign size) : x = y := by
  have magnitudes := first.nearest.unique BinaryFormat.single.value_strictMono second.nearest
  have signs := first.sign.trans second.sign.symm
  have signBit : BinaryFormat.single.signBit = 2 ^ 31 := rfl
  have rangeX := x.toBits.toNat_lt
  have rangeY := y.toBits.toNat_lt
  simp only [magnitude, negative, signBit, decide_eq_decide] at magnitudes signs
  apply Float32.toBits_inj.mp
  apply UInt32.toNat_inj.mp
  omega

end Single

/-! ### Order -/

section Order

open Float.Model Float.Model.UnpackedFloat

theorem compare_swap (x y : UnpackedFloat) : y.compare x = (x.compare y).map Ordering.swap := by
  match x, y with
  | .notANumber, y => cases y <;> rfl
  | x, .notANumber => cases x <;> rfl
  | .infinity s, .infinity t | .infinity s, .zero t | .zero s, .infinity t | .zero s, .zero t =>
      cases s <;> cases t <;> rfl
  | .infinity s, .finite t _ _ _ | .finite s _ _ _, .infinity t | .finite s _ _ _, .zero t
  | .zero s, .finite t _ _ _ => cases s <;> cases t <;> rfl
  | .finite .positive _ _ _, .finite .negative _ _ _
  | .finite .negative _ _ _, .finite .positive _ _ _ => rfl
  | .finite .positive m e _, .finite .positive n f _
  | .finite .negative m e _, .finite .negative n f _ =>
      have exponents : compare f e = (compare e f).swap := Std.OrientedCmp.eq_swap
      have mantissas : compare n m = (compare m n).swap := Std.OrientedCmp.eq_swap
      simp [UnpackedFloat.compare, exponents, mantissas, Ordering.swap_then]

namespace Single

theorem not_lt_of_le {x y : Single} (le : x ≤ y) : ¬y < x := by
  intro lt
  have order : x.toModel.unpack.le y.toModel.unpack = true := decide_eq_true_iff.mp le
  have reverse : y.toModel.unpack.lt x.toModel.unpack = true := decide_eq_true_iff.mp lt
  rw [UnpackedFloat.le] at order
  rw [UnpackedFloat.lt, compare_swap] at reverse
  generalize UnpackedFloat.compare _ _ = compared at order reverse
  match compared with
  | none | some .lt | some .eq => simp at reverse
  | some .gt => simp at order

end Single

end Order

/-! ### Opposite numbers -/

namespace Double

open Float.Model Float.Model.UnpackedFloat Packed

section Bits

variable {format : Format}

/-- The bits with the other sign. -/
def opposite (bits : BitVec format.numBits) : BitVec format.numBits :=
  packComponents format (-Sign.ofBitVec (unpackSign bits)) (unpackExponent bits)
    (unpackMantissa bits)

theorem unpackExponent_opposite (bits : BitVec format.numBits) :
    unpackExponent (opposite bits) = unpackExponent bits :=
  unpackExponent_packComponents

theorem unpackMantissa_opposite (bits : BitVec format.numBits) :
    unpackMantissa (opposite bits) = unpackMantissa bits :=
  unpackMantissa_packComponents

theorem unpack_opposite {bits : BitVec format.numBits}
    (number : UnpackedFloat.unpack format bits ≠ .notANumber) :
    UnpackedFloat.unpack format (opposite bits) = (UnpackedFloat.unpack format bits).neg := by
  have sign : Sign.ofBitVec (unpackSign (opposite bits)) = -Sign.ofBitVec (unpackSign bits) := by
    rw [opposite, unpackSign_packComponents, Sign.ofBitVec_toBitVec]
  rw [UnpackedFloat.unpack, UnpackedFloat.unpack] at *
  simp only [unpackExponent_opposite, unpackMantissa_opposite, sign]
  split
  case isTrue special =>
    split
    case isTrue => rfl
    case isFalse payload => simp [special, payload] at number
  case isFalse =>
    split
    case isTrue => split <;> rfl
    case isFalse => rfl

theorem valid_opposite {bits : BitVec format.numBits}
    (number : UnpackedFloat.unpack format bits ≠ .notANumber) : format.Valid (opposite bits) := by
  constructor
  intro special payload
  rw [unpackExponent_opposite] at special
  rw [unpackMantissa_opposite] at payload
  exact absurd (by simp [UnpackedFloat.unpack, special, payload]) number

end Bits

theorem bits_neg (x : Double) :
    bits (-x) = UnpackedFloat.pack Format.binary64 (UnpackedFloat.unpack _ (bits x)).neg :=
  rfl

/-- A value that is no number is its own opposite. -/
theorem neg_nan {x : Double} (none : UnpackedFloat.unpack _ (bits x) = .notANumber) : -x = x := by
  apply eq_of_bits
  have same : (UnpackedFloat.unpack _ (bits x)).neg = UnpackedFloat.unpack _ (bits x) := by
    rw [none]
    rfl
  rw [bits_neg, same]
  exact pack_unpack_of_valid (valid x)

/-- The opposite of a number has the other sign bit and the same bits otherwise. -/
theorem bits_neg_number {x : Double} (number : UnpackedFloat.unpack _ (bits x) ≠ .notANumber) :
    bits (-x) = opposite (bits x) := by
  rw [bits_neg, ← unpack_opposite number]
  exact pack_unpack_of_valid (valid_opposite number)

theorem unpack_neg (x : Double) :
    UnpackedFloat.unpack _ (bits (-x)) = (UnpackedFloat.unpack _ (bits x)).neg := by
  by_cases number : UnpackedFloat.unpack _ (bits x) = .notANumber
  · rw [neg_nan number, number]
    rfl
  · rw [bits_neg_number number, unpack_opposite number]

theorem abs_neg (x : Double) : (-x).abs = x.abs := by
  have same : (UnpackedFloat.unpack _ (bits (-x))).abs = (UnpackedFloat.unpack _ (bits x)).abs := by
    rw [unpack_neg]
    cases UnpackedFloat.unpack _ (bits x) <;> rfl
  exact congrArg (fun u => Float.ofModel (Float.Model.pack u)) same

theorem magnitude_eq (x : Double) :
    x.magnitude = 2 ^ 52 * (unpackExponent (bits x)).toNat + (unpackMantissa (bits x)).toNat := by
  have signBit : BinaryFormat.double.signBit = 2 ^ 63 := rfl
  have range := x.toBits.toNat_lt
  have same : x.toModel.toBits.toBitVec.toNat = x.toBits.toNat := rfl
  simp [bits, unpackExponent, unpackMantissa, Nat.shiftRight_eq_div_pow, magnitude, signBit, same]
  omega

/-- A number is finite if it is unpacked as zero or as a finite number. -/
theorem isFinite_eq (x : Double) : x.isFinite = (UnpackedFloat.unpack _ (bits x)).isFinite := by
  have exponent : unpackExponent (bits x) = -1#11 ↔ (unpackExponent (bits x)).toNat = 2047 :=
    BitVec.toNat_inj.symm
  have most := (unpackExponent (bits x)).isLt
  have mantissa := (unpackMantissa (bits x)).isLt
  have infinite : BinaryFormat.double.infinity = 2047 * 2 ^ 52 := rfl
  rw [isFinite, magnitude_eq, infinite, UnpackedFloat.unpack]
  change _ < 2 ^ 11 at most
  change _ < 2 ^ 52 at mantissa
  split
  case isTrue special =>
    have large := exponent.mp special
    rw [decide_eq_false (by omega)]
    split <;> rfl
  case isFalse ordinary =>
    have small := mt exponent.mpr ordinary
    rw [decide_eq_true (by omega)]
    split
    · split <;> rfl
    · rfl

theorem isFinite_neg (x : Double) : (-x).isFinite = x.isFinite := by
  rw [isFinite_eq, isFinite_eq, unpack_neg]
  cases UnpackedFloat.unpack _ (bits x) <;> rfl

theorem lt_iff (x y : Double) :
    x < y ↔ (UnpackedFloat.unpack _ (bits x)).lt (UnpackedFloat.unpack _ (bits y)) = true :=
  decide_eq_true_iff

theorem unpack_zero : UnpackedFloat.unpack _ (bits 0.0) = .zero .positive :=
  rfl

/-- A number above zero is not below it, and its opposite is. -/
theorem not_lt_zero_and_neg_lt_zero {x : Double} (positive : 0.0 < x) : ¬x < 0.0 ∧ -x < 0.0 := by
  rw [lt_iff, unpack_zero] at positive
  rw [lt_iff, lt_iff, unpack_zero, unpack_neg]
  revert positive
  match UnpackedFloat.unpack _ (bits x) with
  | .infinity .positive | .finite .positive _ _ _ => exact fun _ => ⟨nofun, rfl⟩
  | .zero .positive | .zero .negative | .infinity .negative | .finite .negative _ _ _ => nofun
  | .notANumber => nofun

/-! ### Products -/

theorem bits_mul (x y : Double) : bits (x * y) =
    UnpackedFloat.pack Format.binary64
      (UnpackedFloat.mul Format.binary64 (UnpackedFloat.unpack _ (bits x))
        (UnpackedFloat.unpack _ (bits y))) :=
  rfl

/-- What is not finite is not packed as a finite number. -/
theorem isFinite_of_bits {x : Double} {u : UnpackedFloat}
    (same : bits x = UnpackedFloat.pack Format.binary64 u) (finite : x.isFinite = true) :
    u.isFinite = true := by
  cases u with
  | zero | finite => rfl
  | notANumber =>
      obtain rfl : x = nan := eq_of_bits same
      exact absurd finite (by decide +kernel)
  | infinity s =>
      cases s with
      | positive =>
          obtain rfl : x = infinity := eq_of_bits same
          exact absurd finite (by decide +kernel)
      | negative =>
          obtain rfl : x = -infinity := eq_of_bits same
          exact absurd finite (by decide +kernel)

/-- A product is finite only if its factors are. -/
theorem isFinite_of_mul {x y : Double} (finite : (x * y).isFinite = true) :
    x.isFinite = true ∧ y.isFinite = true := by
  have product := isFinite_of_bits (bits_mul x y) finite
  rw [isFinite_eq, isFinite_eq]
  revert product
  cases UnpackedFloat.unpack _ (bits x) <;> cases UnpackedFloat.unpack _ (bits y) <;>
    simp [UnpackedFloat.mul, UnpackedFloat.isFinite]

/-- Zero of either sign. -/
def IsZero (x : Double) : Prop :=
  x = 0.0 ∨ x = -0.0

theorem IsZero.mul {x y : Double} (zero : IsZero x) (finite : y.isFinite = true) :
    IsZero (x * y) := by
  have unpacked : ∃ s, UnpackedFloat.unpack _ (bits x) = .zero s := by
    rcases zero with rfl | rfl
    · exact ⟨.positive, rfl⟩
    · exact ⟨.negative, rfl⟩
  have product : ∃ s, bits (x * y) = UnpackedFloat.pack Format.binary64 (.zero s) := by
    obtain ⟨s, unpacked⟩ := unpacked
    rw [isFinite_eq] at finite
    rw [bits_mul, unpacked]
    revert finite
    match UnpackedFloat.unpack _ (bits y) with
    | .zero t | .finite t _ _ _ => exact fun _ => ⟨s * t, rfl⟩
    | .notANumber | .infinity _ => nofun
  obtain ⟨s, product⟩ := product
  cases s with
  | positive => exact .inl (eq_of_bits product)
  | negative => exact .inr (eq_of_bits product)

theorem IsZero.isFinite {x : Double} (zero : IsZero x) : x.isFinite = true := by
  rcases zero with rfl | rfl <;> decide +kernel

theorem IsZero.roundMagnitude {x : Double} (zero : IsZero x) : roundMagnitude x = 0 := by
  rcases zero with rfl | rfl <;> decide +kernel

end Double

/-! ### Sums -/

namespace Single

open Float.Model Float.Model.UnpackedFloat Packed

theorem bits_add_zero (x : Single) : bits (x + 0.0) =
    UnpackedFloat.pack Format.binary32
      (UnpackedFloat.add Format.binary32 (UnpackedFloat.unpack _ (bits x)) (.zero .positive)) :=
  rfl

/-- A sum with zero is never minus zero; otherwise nothing is added. -/
theorem add_zero (x : Single) : x + 0.0 = if x = -0.0 then 0.0 else x := by
  split
  case isTrue minus =>
    rw [minus]
    rfl
  case isFalse other =>
    have kept : UnpackedFloat.pack Format.binary32 (UnpackedFloat.unpack _ (bits x)) = bits x :=
      pack_unpack_of_valid (valid x)
    apply eq_of_bits
    rw [bits_add_zero]
    match h : UnpackedFloat.unpack Format.binary32 (bits x) with
    | .zero .negative =>
        rw [h] at kept
        exact absurd (eq_of_bits kept.symm) other
    | .zero .positive | .finite _ _ _ _ | .infinity _ | .notANumber => rwa [h] at kept

end Single

end PageMap
