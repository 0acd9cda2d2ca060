/-! # Hexadecimal digits
-/

namespace PageMap.Text

/-- The value of a hexadecimal digit in either case. -/
def hexValue? (c : Char) : Option Nat :=
  if '0' ≤ c ∧ c ≤ '9' then some (c.toNat - '0'.toNat)
  else if 'a' ≤ c ∧ c ≤ 'f' then some (c.toNat - 'a'.toNat + 10)
  else if 'A' ≤ c ∧ c ≤ 'F' then some (c.toNat - 'A'.toNat + 10)
  else none

/-- The lowercase hexadecimal digit of the last four bits. -/
def hexDigit (n : Nat) : Char :=
  Nat.digitChar (n % 16)

end PageMap.Text
