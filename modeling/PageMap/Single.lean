import PageMap.Decimal.Basic
import PageMap.Decimal.Shortest
/-! # Single-precision numbers

Every length on a page is a 32-bit float, and every sum and product of lengths is rounded to 32
bits on its own. This file adds the operations that have to be exact about infinities, zeros of
either sign and values that are no number.
-/

namespace PageMap

/-- A 32-bit floating-point number. -/
abbrev Single := Float32

namespace Single

def magnitude (x : Single) : Nat :=
  x.toBits.toNat % BinaryFormat.single.signBit

/-- The sign bit. It is set for `-0` as well. -/
def negative (x : Single) : Bool :=
  BinaryFormat.single.signBit ≤ x.toBits.toNat

def ofPattern (pattern : Nat) : Single :=
  Float32.ofBits pattern.toUInt32

/-- Sets the sign of a magnitude pattern. -/
def signed (negative : Bool) (magnitude : Nat) : Single :=
  ofPattern (if negative then BinaryFormat.single.signBit + magnitude else magnitude)

/-- Neither infinite nor without a value. -/
def isFinite (x : Single) : Bool :=
  x.magnitude < BinaryFormat.single.infinity

def ofNat (n : Nat) : Single :=
  ofPattern (BinaryFormat.single.nearest n 1)

/-- The number nearest to a decimal; beyond the largest number it is infinite. -/
def ofDecimal (d : Decimal) : Single :=
  ofPattern (d.pattern .single)

/-- The larger of two numbers. An operand that is no number is ignored, and of two zeros the second
    one is taken. -/
def larger (x y : Single) : Single :=
  if y.isNaN then x else if y < x then x else y

/-- The smaller of two numbers, with the same exceptions as `larger`. -/
def smaller (x y : Single) : Single :=
  if y.isNaN then x else if x < y then x else y

def clamp (x low high : Single) : Single :=
  let x := if x < low then low else x
  if high < x then high else x

/-- The nearest whole number; a half goes away from zero, and the sign is kept even for zero. -/
def round (x : Single) : Single :=
  match BinaryFormat.single.magnitude? x.magnitude with
  | none => x
  | some (m, q) =>
      if 0 ≤ q then x
      else signed x.negative (BinaryFormat.single.nearest (divRoundUp m (Nat.pow 2 (-q).toNat)) 1)

/-- The largest count that a size can have. -/
def maxCount : Nat := Nat.pow 2 64 - 1

/-- The whole part as a count: nothing below zero, `maxCount` at most, and nothing for a value that
    is no number. -/
def toCount (x : Single) : Nat :=
  if x.isNaN ∨ x.negative then 0
  else match BinaryFormat.single.magnitude? x.magnitude with
    | none => maxCount
    | some (m, q) =>
        min maxCount (if 0 ≤ q then m * Nat.pow 2 q.toNat else m / Nat.pow 2 (-q).toNat)

/-- The shortest decimal that reads back as the number, for a finite number other than zero. -/
def shortest? (x : Single) : Option Digits :=
  match BinaryFormat.single.magnitude? x.magnitude with
  | some (m, q) => if m = 0 then none else some (BinaryFormat.single.shortest .even m q)
  | none => none

end Single

end PageMap
