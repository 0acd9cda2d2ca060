import PageMap.Single
/-! # Double-precision numbers

Bound data carries 64-bit floats. They are read from decimals, written as the shortest decimal
without an exponent, narrowed to single precision and rounded to whole numbers of any size.
-/

namespace PageMap

abbrev Double := Float

namespace Double

def magnitude (x : Double) : Nat :=
  x.toBits.toNat % BinaryFormat.double.signBit

/-- The sign bit. It is set for `-0` as well. -/
def negative (x : Double) : Bool :=
  BinaryFormat.double.signBit ≤ x.toBits.toNat

def ofPattern (pattern : Nat) : Double :=
  Float.ofBits pattern.toUInt64

/-- Neither infinite nor without a value. -/
def isFinite (x : Double) : Bool :=
  x.magnitude < BinaryFormat.double.infinity

/-- The number nearest to a natural number. -/
def ofNat (n : Nat) : Double :=
  ofPattern (BinaryFormat.double.nearest n 1)

/-- The number nearest to a decimal; beyond the largest number it is infinite. -/
def ofDecimal (d : Decimal) : Double :=
  ofPattern (d.pattern .double)

def infinity : Double :=
  ofPattern BinaryFormat.double.infinity

/-- The value that is no number. -/
def nan : Double :=
  ofPattern (BinaryFormat.double.infinity + Nat.pow 2 51)

/-- The nearest single-precision number. -/
def toSingle (x : Double) : Single :=
  if x.isNaN then Single.ofPattern (BinaryFormat.single.infinity + Nat.pow 2 22)
  else match BinaryFormat.double.magnitude? x.magnitude with
    | none => Single.signed x.negative BinaryFormat.single.infinity
    | some (m, q) =>
        Single.signed x.negative
          (BinaryFormat.single.nearest (m * Nat.pow 2 q.toNat) (Nat.pow 2 (-q).toNat))

/-- The whole number nearest to the magnitude of a finite number; a half goes up. -/
def roundMagnitude (x : Double) : Nat :=
  match BinaryFormat.double.magnitude? x.magnitude with
  | none => 0
  | some (m, q) => divRoundUp (m * Nat.pow 2 q.toNat) (Nat.pow 2 (-q).toNat)

/-- The powers `base ^ n` by repeated squaring, starting from `acc`. Every product is rounded, so
    the order of the multiplications is part of the result. -/
def powerFrom (acc base : Double) (n : Nat) : Double :=
  let acc := if n % 2 = 1 then acc * base else acc
  if n < 2 then acc else powerFrom acc (base * base) (n / 2)
termination_by n
decreasing_by omega

def tenPower (n : Nat) : Double :=
  powerFrom 1.0 10.0 n

/-- The digits of `digits · 10 ^ exponent` with a point where one is needed and no exponent. -/
def positional (d : Digits) : List Char :=
  let digits := decimalDigits d.digits
  if 0 ≤ d.exponent then digits ++ List.replicate d.exponent.toNat '0'
  else
    let places := (-d.exponent).toNat
    if places < digits.length then
      digits.take (digits.length - places) ++ '.' :: digits.drop (digits.length - places)
    else '0' :: '.' :: (List.replicate (places - digits.length) '0' ++ digits)

/-- The text of a number: the shortest decimal that reads back, never with an exponent. Whole
    numbers have no point. -/
def text (x : Double) : String :=
  if x.isNaN then "NaN"
  else
    let sign := if x.negative then ['-'] else []
    match BinaryFormat.double.magnitude? x.magnitude with
    | none => String.ofList (sign ++ ['i', 'n', 'f'])
    | some (m, q) =>
        if m = 0 then String.ofList (sign ++ ['0'])
        else String.ofList (sign ++ positional (BinaryFormat.double.shortest .up m q))

/-- A number read from a whole text: a decimal, or `inf`, `infinity` or `nan` in any case with an
    optional sign. -/
def ofText? (text : String) : Option Double :=
  match Decimal.read? text.toList with
  | some (d, []) => some (ofDecimal d)
  | some _ => none
  | none =>
      let (negative, word) := Decimal.readSign text.toList
      match String.ofList (word.map Char.toLower) with
      | "inf" | "infinity" => some (if negative then -infinity else infinity)
      | "nan" => some nan
      | _ => none

end Double

end PageMap
