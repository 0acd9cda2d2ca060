import PageMap.Decimal.Binary
/-! # Shortest decimals

The shortest decimal of a floating-point value is the one with the fewest digits that rounds back
to the value, and of those the nearest. The search goes through the decimal grids from coarse to
fine. On each grid only the two neighbours of the value have to be looked at: if any point of the
grid rounds to the value, one of the two does.
-/

namespace PageMap

/-- The digits of a positive decimal, `digits · 10 ^ exponent`. -/
structure Digits where
  digits : Nat
  exponent : Int
  deriving DecidableEq

/-- Which of two equally near decimals is taken. -/
inductive DecimalTie where
  | up
  | even
  deriving DecidableEq

namespace BinaryFormat

/-- The largest `e` with `10 ^ e ≤ n / d`, for positive `n` and `d`. The guess from the binary
    logarithm is off by at most one for the exponents of the formats here. -/
def floorLog10 (n d : Nat) : Int :=
  let reached (e : Int) : Bool :=
    if 0 ≤ e then d * Nat.pow 10 e.toNat ≤ n else d ≤ n * Nat.pow 10 (-e).toNat
  let guess := Int.fdiv (floorLog2 n d * 30103) 100000
  if reached (guess + 1) then guess + 1
  else if reached guess then guess
  else guess - 1

/-- A value with the ends of the interval that rounds to it, as fractions over one denominator. -/
structure Neighbourhood where
  low : Nat
  value : Nat
  high : Nat
  denominator : Nat
  /-- The ends themselves round to the value. -/
  closed : Bool

/-- The interval around `m · 2 ^ q`. It reaches half a unit to each side, but only a quarter
    downwards where the units below are half as large. -/
def neighbourhood (f : BinaryFormat) (m : Nat) (q : Int) : Neighbourhood :=
  let scale := Nat.pow 2 (q - 2).toNat
  let below := if m = Nat.pow 2 f.fractionBits ∧ f.minExponent < q then 1 else 2
  { low := (4 * m - below) * scale
    value := 4 * m * scale
    high := (4 * m + 2) * scale
    denominator := Nat.pow 2 (2 - q).toNat
    closed := m % 2 = 0 }

/-- The point of the grid of multiples of `10 ^ exponent` that stands for the value, if one does. -/
def Neighbourhood.onGrid? (v : Neighbourhood) (tie : DecimalTie) (exponent : Int) : Option Nat :=
  let fine := Nat.pow 10 (-exponent).toNat
  let step := v.denominator * Nat.pow 10 exponent.toNat
  let below := v.value * fine / step
  let inside (k : Nat) : Bool :=
    if v.closed then v.low * fine ≤ k * step ∧ k * step ≤ v.high * fine
    else v.low * fine < k * step ∧ k * step < v.high * fine
  match inside below, inside (below + 1) with
  | false, false => none
  | true, false => some below
  | false, true => some (below + 1)
  | true, true =>
      let down := v.value * fine - below * step
      let up := (below + 1) * step - v.value * fine
      if down < up then some below
      else if up < down then some (below + 1)
      else match tie with
        | .up => some (below + 1)
        | .even => some (below + below % 2)

/-- Tries grids from `exponent` downwards, each ten times finer than the one before. -/
def Neighbourhood.search (v : Neighbourhood) (tie : DecimalTie) : Nat → Int → Digits
  | 0, exponent => ⟨v.value * Nat.pow 10 (-exponent).toNat / v.denominator, exponent⟩
  | tries + 1, exponent =>
      match v.onGrid? tie exponent with
      | some k => ⟨k, exponent⟩
      | none => v.search tie tries (exponent - 1)

/-- Moves a trailing zero of the digits into the exponent. Only a carry leaves zeros behind. -/
def trimZeros : Nat → Digits → Digits
  | 0, d => d
  | tries + 1, d =>
      if d.digits ≠ 0 ∧ d.digits % 10 = 0 then trimZeros tries ⟨d.digits / 10, d.exponent + 1⟩
      else d

/-- The shortest decimal of the positive magnitude `m · 2 ^ q`. Seventeen digits are enough for
    every value of both formats. -/
def shortest (f : BinaryFormat) (tie : DecimalTie) (m : Nat) (q : Int) : Digits :=
  let v := f.neighbourhood m q
  trimZeros 20 (v.search tie 18 (floorLog10 v.value v.denominator))

end BinaryFormat

example : BinaryFormat.double.shortest .up 1 (-1074) = ⟨5, -324⟩ := by decide +kernel
example : BinaryFormat.single.shortest .even 0x800000 (-23) = ⟨1, 0⟩ := by decide +kernel
example : BinaryFormat.single.shortest .even 0xcccccd (-27) = ⟨1, -1⟩ := by decide +kernel
example : BinaryFormat.double.shortest .up (2 ^ 53 - 1) 0 = ⟨9007199254740991, 0⟩ := by
  decide +kernel

end PageMap
