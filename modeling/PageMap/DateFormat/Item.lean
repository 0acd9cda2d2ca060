import PageMap.Calendar.Moment
/-! # Items of date patterns

A date pattern is text with specifiers behind percent signs. Most specifiers write a number; a sign
between the percent sign and the letter changes how the number is filled up. Some stand for several
others.
-/

namespace PageMap

inductive DateNumber where
  | year
  | century
  | yearOfCentury
  | weekYear
  | weekYearOfCentury
  | quarter
  | month
  | day
  | weekFromSunday
  | weekFromMonday
  | thursdayWeek
  /-- From Sunday as zero. -/
  | weekday
  /-- From Monday as one. -/
  | weekdayFromMonday
  | dayOfYear
  | hour
  | hour12
  | minute
  | second
  | nanosecond
  | epochSeconds
  deriving DecidableEq

/-- What a number is filled up with on the left. -/
inductive DatePad where
  | nothing
  | zero
  | space
  deriving DecidableEq

/-- How far an offset is written out. -/
inductive OffsetForm where
  /-- Hours and minutes. -/
  | joined
  /-- Hours and minutes with a colon. -/
  | minutes
  /-- Hours, minutes and seconds with colons. -/
  | seconds
  /-- Hours alone. -/
  | hours
  /-- For reading only; it cannot be written. -/
  | unwritable
  deriving DecidableEq

/-- A part of a date pattern. -/
inductive DateItem where
  | literal (c : Char)
  | number (field : DateNumber) (pad : DatePad)
  | monthName (long : Bool)
  | weekdayName (long : Bool)
  | halfOfDay (upper : Bool)
  /-- A fraction of a second with a point before it: nothing for zero, and else three, six or nine
      digits. -/
  | fraction
  /-- So many digits of a fraction of a second, with or without a point. -/
  | fractionDigits (count : Nat) (point : Bool)
  | offset (form : OffsetForm)
  deriving DecidableEq

namespace DateItem

def zeroed (field : DateNumber) : DateItem := .number field .zero

def blanked (field : DateNumber) : DateItem := .number field .space

/-- The specifiers that write one number. -/
def number? : Char → Option (DateNumber × DatePad)
  | 'Y' => some (.year, .zero)
  | 'C' => some (.century, .zero)
  | 'y' => some (.yearOfCentury, .zero)
  | 'G' => some (.weekYear, .zero)
  | 'g' => some (.weekYearOfCentury, .zero)
  | 'q' => some (.quarter, .nothing)
  | 'm' => some (.month, .zero)
  | 'd' => some (.day, .zero)
  | 'e' => some (.day, .space)
  | 'w' => some (.weekday, .nothing)
  | 'u' => some (.weekdayFromMonday, .nothing)
  | 'U' => some (.weekFromSunday, .zero)
  | 'W' => some (.weekFromMonday, .zero)
  | 'V' => some (.thursdayWeek, .zero)
  | 'j' => some (.dayOfYear, .zero)
  | 'H' => some (.hour, .zero)
  | 'k' => some (.hour, .space)
  | 'I' => some (.hour12, .zero)
  | 'l' => some (.hour12, .space)
  | 'M' => some (.minute, .zero)
  | 'S' => some (.second, .zero)
  | 'f' => some (.nanosecond, .zero)
  | 's' => some (.epochSeconds, .nothing)
  | _ => none

/-- The date as month, day and year with slashes. -/
def slashed : List DateItem :=
  [zeroed .month, .literal '/', zeroed .day, .literal '/', zeroed .yearOfCentury]

/-- The date as year, month and day with hyphens. -/
def hyphened : List DateItem :=
  [zeroed .year, .literal '-', zeroed .month, .literal '-', zeroed .day]

/-- Hours and minutes. -/
def clock : List DateItem :=
  [zeroed .hour, .literal ':', zeroed .minute]

/-- Hours, minutes and seconds. -/
def longClock : List DateItem :=
  clock ++ [.literal ':', zeroed .second]

/-- What the letter behind a percent sign stands for. -/
def ofLetter? (c : Char) : Option (List DateItem) :=
  match number? c with
  | some (field, pad) => some [.number field pad]
  | none =>
      match c with
      | 'b' => some [.monthName false]
      | 'h' => some [.monthName false]
      | 'B' => some [.monthName true]
      | 'a' => some [.weekdayName false]
      | 'A' => some [.weekdayName true]
      | 'p' => some [.halfOfDay true]
      | 'P' => some [.halfOfDay false]
      | 'D' => some slashed
      | 'x' => some slashed
      | 'F' => some hyphened
      | 'v' => some [blanked .day, .literal '-', .monthName false, .literal '-', zeroed .year]
      | 'R' => some clock
      | 'T' => some longClock
      | 'X' => some longClock
      | 'r' =>
          some [zeroed .hour12, .literal ':', zeroed .minute, .literal ':', zeroed .second,
            .literal ' ', .halfOfDay true]
      | 'c' =>
          some ([.weekdayName false, .literal ' ', .monthName false, .literal ' ', blanked .day,
            .literal ' '] ++ longClock ++ [.literal ' ', zeroed .year])
      | '+' => some (hyphened ++ .literal 'T' :: longClock ++ [.fraction, .offset .minutes])
      | 'z' => some [.offset .joined]
      | 'Z' => some [.offset .minutes]
      | 't' => some [.literal '\t']
      | 'n' => some [.literal '\n']
      | '%' => some [.literal '%']
      | _ => none

/-- The number of a letter behind a percent sign and a padding sign. -/
def padded? (pad : DatePad) (c : Char) : Option (List DateItem) :=
  (number? c).map fun (field, _) => [.number field pad]

/-- The items of a pattern, if every percent sign begins a specifier. -/
def scan? : List Char → Option (List DateItem)
  | [] => some []
  | '%' :: '-' :: c :: cs => do return (← padded? .nothing c) ++ (← scan? cs)
  | '%' :: '0' :: c :: cs => do return (← padded? .zero c) ++ (← scan? cs)
  | '%' :: '_' :: c :: cs => do return (← padded? .space c) ++ (← scan? cs)
  | '%' :: '#' :: 'z' :: cs => do return .offset .unwritable :: (← scan? cs)
  | '%' :: ':' :: 'z' :: cs => do return .offset .minutes :: (← scan? cs)
  | '%' :: ':' :: ':' :: 'z' :: cs => do return .offset .seconds :: (← scan? cs)
  | '%' :: ':' :: ':' :: ':' :: 'z' :: cs => do return .offset .hours :: (← scan? cs)
  | '%' :: '.' :: 'f' :: cs => do return .fraction :: (← scan? cs)
  | '%' :: '.' :: '3' :: 'f' :: cs => do return .fractionDigits 3 true :: (← scan? cs)
  | '%' :: '.' :: '6' :: 'f' :: cs => do return .fractionDigits 6 true :: (← scan? cs)
  | '%' :: '.' :: '9' :: 'f' :: cs => do return .fractionDigits 9 true :: (← scan? cs)
  | '%' :: '3' :: 'f' :: cs => do return .fractionDigits 3 false :: (← scan? cs)
  | '%' :: '6' :: 'f' :: cs => do return .fractionDigits 6 false :: (← scan? cs)
  | '%' :: '9' :: 'f' :: cs => do return .fractionDigits 9 false :: (← scan? cs)
  | '%' :: c :: cs => do return (← ofLetter? c) ++ (← scan? cs)
  | ['%'] => none
  | c :: cs => do return .literal c :: (← scan? cs)

end DateItem

end PageMap
