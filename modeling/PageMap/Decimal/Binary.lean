/-! # Binary floating-point formats

A binary format stores a sign and a bit pattern for the magnitude. A finite magnitude is a whole
number of units, and a unit is a power of two. This file decodes magnitudes and rounds an exact
fraction or an exact decimal to the nearest magnitude of a format. All arithmetic is on natural
numbers, so nothing is rounded twice.
-/

namespace PageMap

/-- A binary format, given by the widths of its stored fraction and of its exponent field. -/
structure BinaryFormat where
  fractionBits : Nat
  exponentBits : Nat
  deriving DecidableEq

/-- The quotient rounded to the nearest whole number; a tie goes to the even one. -/
def divRoundEven (n d : Nat) : Nat :=
  let quotient := n / d
  let rest := n % d
  if 2 * rest < d then quotient
  else if d < 2 * rest then quotient + 1
  else quotient + quotient % 2

/-- The quotient rounded to the nearest whole number; a tie goes up. -/
def divRoundUp (n d : Nat) : Nat :=
  (2 * n + d) / (2 * d)

/-- The largest `e` with `2 ^ e ≤ n / d`, for positive `n` and `d`. -/
def floorLog2 (n d : Nat) : Int :=
  let guess : Int := (Nat.log2 n : Int) - Nat.log2 d
  let reached :=
    if 0 ≤ guess then d * Nat.pow 2 guess.toNat ≤ n else d ≤ n * Nat.pow 2 (-guess).toNat
  if reached then guess else guess - 1

namespace BinaryFormat

def single : BinaryFormat := ⟨23, 8⟩

def double : BinaryFormat := ⟨52, 11⟩

/-- The exponent of the smallest unit. Every finite value is a whole multiple of it. -/
def minExponent (f : BinaryFormat) : Int :=
  2 - Int.pow 2 (f.exponentBits - 1) - f.fractionBits

/-- The magnitude pattern of infinity. The finite patterns are exactly the smaller numbers. -/
def infinity (f : BinaryFormat) : Nat :=
  (Nat.pow 2 f.exponentBits - 1) * Nat.pow 2 f.fractionBits

def signBit (f : BinaryFormat) : Nat :=
  Nat.pow 2 (f.fractionBits + f.exponentBits)

/-- The number `m` of units and the exponent `q` of the unit, so that the magnitude is `m · 2 ^ q`.
    There is none for infinity and for patterns that are no number. -/
def magnitude? (f : BinaryFormat) (pattern : Nat) : Option (Nat × Int) :=
  if pattern < f.infinity then
    let field := pattern / Nat.pow 2 f.fractionBits
    let fraction := pattern % Nat.pow 2 f.fractionBits
    if field = 0 then some (fraction, f.minExponent)
    else some (fraction + Nat.pow 2 f.fractionBits, f.minExponent + field - 1)
  else none

/-- The magnitude nearest to `n / d`, a tie to the one with an even number of units; from half a
    unit above the largest finite magnitude on it is infinity. -/
def nearest (f : BinaryFormat) (n d : Nat) : Nat :=
  if n = 0 then 0
  else
    let unit := max (floorLog2 n d - f.fractionBits) f.minExponent
    let count :=
      if 0 ≤ unit then divRoundEven n (d * Nat.pow 2 unit.toNat)
      else divRoundEven (n * Nat.pow 2 (-unit).toNat) d
    min ((unit - f.minExponent).toNat * Nat.pow 2 f.fractionBits + count) f.infinity

/-- The magnitude nearest to `coefficient · 10 ^ exponent`. A decimal that is out of every format's
    reach by its count of digits is settled without computing the power of ten. -/
def nearestDecimal (f : BinaryFormat) (coefficient : Nat) (exponent : Int) : Nat :=
  let reach : Int := Int.pow 2 f.exponentBits
  let order := exponent + (Nat.toDigits 10 coefficient).length
  if coefficient = 0 ∨ order < -reach then 0
  else if reach < order then f.infinity
  else if 0 ≤ exponent then f.nearest (coefficient * Nat.pow 10 exponent.toNat) 1
  else f.nearest coefficient (Nat.pow 10 (-exponent).toNat)

end BinaryFormat

example : BinaryFormat.single.nearestDecimal 1 (-1) = 0x3dcccccd := by decide +kernel
example : BinaryFormat.single.nearestDecimal 16777217 0 = 0x4b800000 := by decide +kernel
example : BinaryFormat.single.nearestDecimal 34028236 31 = BinaryFormat.single.infinity := by
  decide +kernel
example : BinaryFormat.double.nearestDecimal 5 (-324) = 1 := by decide +kernel

end PageMap
