import PageMap.Calendar.Date
import PageMap.Decimal.Basic
import PageMap.Text.Blank
/-! # Moments and how they are read

Bound data gives a moment as a timestamp with an offset, as a local timestamp or as a date. The
three forms are tried in this order. The first has digits of fixed width; in the others a number may
be shorter than its width and have blanks before it.
-/

namespace PageMap

/-- A time of day. Second 60 is a leap second. -/
structure TimeOfDay where
  hour : Nat
  minute : Nat
  second : Nat
  nanosecond : Nat
  deriving DecidableEq

/-- A date and a time on the wall, with the seconds by which the place is ahead of universal time if
    they are known. -/
structure Moment where
  date : Date
  time : TimeOfDay
  offset : Option Int
  deriving DecidableEq

namespace TimeOfDay

def midnight : TimeOfDay := ⟨0, 0, 0, 0⟩

def make? (hour minute second nanosecond : Nat) : Option TimeOfDay :=
  if hour < 24 ∧ minute < 60 ∧ second ≤ 60 then some ⟨hour, minute, second, nanosecond⟩ else none

end TimeOfDay

namespace Moment

def afterChar? (expected : Char) : List Char → Option (List Char)
  | c :: cs => if c = expected then some cs else none
  | [] => none

/-- A number of exactly so many digits. -/
def fixedNumber? (width : Nat) (cs : List Char) : Option (Nat × List Char) :=
  let digits := cs.take width
  if digits.length = width ∧ digits.all Char.isDigit then some (digitsValue digits, cs.drop width)
  else none

/-- The digits of a fraction of a second as nanoseconds; digits past the ninth are cut. -/
def readFraction? : List Char → Option (Nat × List Char)
  | '.' :: cs =>
      match cs.span Char.isDigit with
      | ([], _) => none
      | (digits, rest) =>
          let nine := digits.take 9
          some (digitsValue nine * Nat.pow 10 (9 - nine.length), rest)
  | cs => some (0, cs)

/-- The sign of an offset; a minus sign may be a hyphen or the mathematical sign. -/
def readSign? : List Char → Option (Bool × List Char)
  | '+' :: cs => some (false, cs)
  | '-' :: cs => some (true, cs)
  | '\u2212' :: cs => some (true, cs)
  | _ => none

/-- An offset of hours and minutes, or `Z` for none, in seconds. -/
def readOffset? : List Char → Option (Int × List Char)
  | 'Z' :: cs => some (0, cs)
  | 'z' :: cs => some (0, cs)
  | cs => do
      let (negative, cs) ← readSign? cs
      let (hours, cs) ← fixedNumber? 2 cs
      let cs ← afterChar? ':' cs
      let (minutes, cs) ← fixedNumber? 2 cs
      if hours < 24 ∧ minutes < 60 then
        let seconds : Int := (hours * 60 + minutes) * 60
        return (if negative then -seconds else seconds, cs)
      else none

/-- What stands between the date and the time of a timestamp with an offset. -/
def afterDate? : List Char → Option (List Char)
  | 'T' :: cs => some cs
  | 't' :: cs => some cs
  | ' ' :: cs => some cs
  | _ => none

def readZoned? (cs : List Char) : Option Moment := do
  let (year, cs) ← fixedNumber? 4 cs
  let cs ← afterChar? '-' cs
  let (month, cs) ← fixedNumber? 2 cs
  let cs ← afterChar? '-' cs
  let (day, cs) ← fixedNumber? 2 cs
  let cs ← afterDate? cs
  let (hour, cs) ← fixedNumber? 2 cs
  let cs ← afterChar? ':' cs
  let (minute, cs) ← fixedNumber? 2 cs
  let cs ← afterChar? ':' cs
  let (second, cs) ← fixedNumber? 2 cs
  let (nanosecond, cs) ← readFraction? cs
  let (offset, cs) ← readOffset? cs
  if cs.isEmpty then
    return ⟨← Date.make? year month day, ← TimeOfDay.make? hour minute second nanosecond, offset⟩
  else none

/-- A number of at least one digit and at most so many, with blanks before it. -/
def shortNumber? (width : Nat) (cs : List Char) : Option (Nat × List Char) :=
  let cs := cs.dropWhile Text.isBlank
  let digits := (cs.take width).takeWhile Char.isDigit
  if digits.isEmpty then none else some (digitsValue digits, cs.drop digits.length)

/-- The digits behind the sign of a year; there may be any number of them. -/
def signedYear? (negative : Bool) (cs : List Char) : Option (Int × List Char) :=
  match cs.span Char.isDigit with
  | ([], _) => none
  | (digits, rest) =>
      let year : Int := digitsValue digits
      some (if negative then -year else year, rest)

/-- A year of up to four digits, or of any number of digits behind a sign. -/
def readYear? (cs : List Char) : Option (Int × List Char) :=
  match cs.dropWhile Text.isBlank with
  | '-' :: cs => signedYear? true cs
  | '+' :: cs => signedYear? false cs
  | cs => (shortNumber? 4 cs).map fun (year, cs) => ((year : Int), cs)

def readDate? (cs : List Char) : Option (Date × List Char) := do
  let (year, cs) ← readYear? cs
  let cs ← afterChar? '-' cs
  let (month, cs) ← shortNumber? 2 cs
  let cs ← afterChar? '-' cs
  let (day, cs) ← shortNumber? 2 cs
  return (← Date.make? year month day, cs)

/-- A date, the letter `T` and a time. -/
def readLocal? (cs : List Char) : Option Moment := do
  let (date, cs) ← readDate? cs
  let cs ← afterChar? 'T' cs
  let (hour, cs) ← shortNumber? 2 cs
  let cs ← afterChar? ':' cs
  let (minute, cs) ← shortNumber? 2 cs
  let cs ← afterChar? ':' cs
  let (second, cs) ← shortNumber? 2 cs
  if cs.isEmpty then return ⟨date, ← TimeOfDay.make? hour minute second 0, none⟩ else none

/-- A date alone, which stands for its midnight. -/
def readDay? (cs : List Char) : Option Moment := do
  let (date, cs) ← readDate? cs
  if cs.isEmpty then return ⟨date, .midnight, none⟩ else none

def ofText? (text : String) : Option Moment :=
  let cs := Text.trimBy Text.isBlank text.toList
  (readZoned? cs).or ((readLocal? cs).or (readDay? cs))

/-- The second of the minute before a leap second counts twice. -/
def clockSeconds (t : TimeOfDay) : Nat :=
  (t.hour * 60 + t.minute) * 60 + min t.second 59

/-- Seconds of universal time since 1970. A moment without an offset counts as universal time. -/
def epochSeconds (m : Moment) : Int :=
  m.date.daysSince1970 * 86400 + clockSeconds m.time - m.offset.getD 0

end Moment

end PageMap
