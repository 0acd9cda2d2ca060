import PageMap.Double
/-! # JSON numbers

A number keeps the digits it was written with. Its value is an integer where the digits fit into 64
bits, and a float otherwise. The float is the product or quotient of the leading digits and a power
of ten, each rounded, and not always the nearest one to the decimal.
-/

namespace PageMap.Json

/-- The digits of a number: `whole`, `fraction` after a point if there is any, and the exponent if
    one is written. -/
structure Number where
  negative : Bool
  whole : List Char
  fraction : List Char
  exponent : Option Int
  deriving DecidableEq

/-- What a number stands for. -/
inductive Number.Value where
  | natural (n : Nat)
  | negative (n : Nat)
  | real (x : Double)

namespace Number

/-- The largest integer that the leading digits may make. -/
def maxSignificand : Nat := Nat.pow 2 64 - 1

/-- Appends digits to a number while it fits into 64 bits; also gives the digits left over. -/
def readSignificand (significand : Nat) : List Char → Nat × List Char
  | [] => (significand, [])
  | c :: cs =>
      let next := 10 * significand + digitValue c
      if next ≤ maxSignificand then readSignificand next cs else (significand, c :: cs)

/-- Multiplies or divides by a power of ten. Powers beyond the largest one that a float holds are
    divided away step by step; `tries` bounds the steps, and three reach zero from everywhere. A
    product that overflows has no value. -/
def scale? : Nat → Double → Int → Option Double
  | 0, x, _ => some x
  | tries + 1, x, exponent =>
      if exponent.natAbs ≤ 308 then
        let power := Double.ofDecimal ⟨false, 1, exponent.natAbs⟩
        if 0 ≤ exponent then
          let product := x * power
          if product.isFinite then some product else none
        else some (x / power)
      else if x == 0.0 then some x
      else if 0 ≤ exponent then none
      else scale? tries (x / Double.ofDecimal ⟨false, 1, 308⟩) (exponent + 308)

/-- The value of a number, unless it is too large for a float. -/
def value? (n : Number) : Option Value := do
  let (significand, skipped) := readSignificand 0 n.whole
  if skipped.isEmpty && n.fraction.isEmpty && n.exponent.isNone then
    if n.negative then
      if significand = 0 ∨ Nat.pow 2 63 < significand then
        return .real (-(Double.ofNat significand))
      else return .negative significand
    else return .natural significand
  else
    let (significand, rest) := readSignificand significand n.fraction
    let places : Int := skipped.length - (n.fraction.length - rest.length : Nat)
    let size ← scale? 4 (Double.ofNat significand) (places + n.exponent.getD 0)
    return .real (if n.negative then -size else size)

/-- A value as a 64-bit float. -/
def Value.toDouble : Value → Double
  | .natural n => Double.ofNat n
  | .negative n => -(Double.ofNat n)
  | .real x => x

/-- A value as a 32-bit float. Integers are rounded directly, floats a second time. -/
def Value.toSingle : Value → Single
  | .natural n => Single.ofNat n
  | .negative n => -(Single.ofNat n)
  | .real x => x.toSingle

def ofNat (n : Nat) : Number :=
  ⟨false, decimalDigits n, [], none⟩

/-- The exponents of the first digit between which a float is written without an exponent. -/
structure Layout where
  lowest : Int
  highest : Int

/-- Singles are written plainly from one millionth to below ten million million. -/
def singleLayout : Layout := ⟨-6, 12⟩

/-- Lays the digits of a float out. A plain number always has a fraction; with an exponent a lone
    digit has none. -/
def ofDigits (layout : Layout) (negative : Bool) (d : Digits) : Number :=
  let digits := decimalDigits d.digits
  let order := d.exponent + digits.length - 1
  if order < layout.lowest ∨ layout.highest < order then
    ⟨negative, digits.take 1, digits.drop 1, some order⟩
  else if 0 ≤ d.exponent then
    ⟨negative, digits ++ List.replicate d.exponent.toNat '0', ['0'], none⟩
  else
    let places := (-d.exponent).toNat
    if places < digits.length then
      let point := digits.length - places
      ⟨negative, digits.take point, digits.drop point, none⟩
    else ⟨negative, ['0'], List.replicate (places - digits.length) '0' ++ digits, none⟩

/-- The number that writes a finite single. -/
def ofSingle? (x : Single) : Option Number :=
  if x.isFinite then
    match x.shortest? with
    | some d => some (ofDigits singleLayout x.negative d)
    | none => some ⟨x.negative, ['0'], ['0'], none⟩
  else none

/-- The text of a number. An exponent always has a sign. -/
def text (n : Number) : List Char :=
  let sign := if n.negative then ['-'] else []
  let fraction := if n.fraction.isEmpty then [] else '.' :: n.fraction
  let exponent := match n.exponent with
    | none => []
    | some e => 'e' :: (if e < 0 then '-' else '+') :: decimalDigits e.natAbs
  sign ++ n.whole ++ fraction ++ exponent

end Number

end PageMap.Json
