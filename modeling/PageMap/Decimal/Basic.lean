import PageMap.Decimal.Binary
/-! # Decimal numbers in text

A decimal number is an optional sign, digits with an optional point among or around them, and an
optional exponent. Reading keeps the exact value; rounding to a binary format is a separate step.
-/

namespace PageMap

/-- The number `± coefficient · 10 ^ exponent`. The sign of zero is kept. -/
structure Decimal where
  negative : Bool
  coefficient : Nat
  exponent : Int
  deriving DecidableEq

def digitValue (c : Char) : Nat :=
  c.toNat - '0'.toNat

/-- The number that a list of ASCII digits writes in base ten. -/
def digitsValue (digits : List Char) : Nat :=
  digits.foldl (fun n c => 10 * n + digitValue c) 0

/-- The digits of a number in base ten, without leading zeros; zero is one digit. -/
def decimalDigits (n : Nat) : List Char :=
  Nat.toDigits 10 n

namespace Decimal

/-- Splits a leading sign off; no sign counts as plus. -/
def readSign : List Char → Bool × List Char
  | '+' :: rest => (false, rest)
  | '-' :: rest => (true, rest)
  | rest => (false, rest)

/-- The digits before and after the point: `digits`, `digits.`, `digits.digits` or `.digits`. -/
def readMantissa? (cs : List Char) : Option ((List Char × List Char) × List Char) :=
  match cs.span Char.isDigit with
  | ([], '.' :: rest) =>
      match rest.span Char.isDigit with
      | ([], _) => none
      | (fraction, rest) => some (([], fraction), rest)
  | ([], _) => none
  | (whole, '.' :: rest) =>
      let (fraction, rest) := rest.span Char.isDigit
      some ((whole, fraction), rest)
  | (whole, rest) => some ((whole, []), rest)

/-- An optional exponent. An `e` without digits after it makes the whole number unreadable. -/
def readExponent? : List Char → Option (Int × List Char)
  | c :: cs =>
      if c = 'e' ∨ c = 'E' then
        let (negative, cs) := readSign cs
        match cs.span Char.isDigit with
        | ([], _) => none
        | (digits, rest) =>
            let size : Int := digitsValue digits
            some (if negative then -size else size, rest)
      else some (0, c :: cs)
  | [] => some (0, [])

/-- The decimal number at the front of the text, and what follows it. -/
def read? (cs : List Char) : Option (Decimal × List Char) := do
  let (negative, cs) := readSign cs
  let ((whole, fraction), cs) ← readMantissa? cs
  let (exponent, cs) ← readExponent? cs
  return (⟨negative, digitsValue (whole ++ fraction), exponent - fraction.length⟩, cs)

/-- The bit pattern of the value of a format that is nearest to the decimal. -/
def pattern (f : BinaryFormat) (d : Decimal) : Nat :=
  f.nearestDecimal d.coefficient d.exponent + if d.negative then f.signBit else 0

end Decimal

end PageMap
