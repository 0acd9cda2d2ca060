import PageMap.DateFormat.Item
import PageMap.FormatError
/-! # Date formats
-/

namespace PageMap

namespace DateItem

def fill (c : Char) (width : Nat) (cs : List Char) : List Char :=
  List.replicate (width - cs.length) c ++ cs

/-- A number of at least so many characters, where the sign counts and zeros go behind it. -/
def padNumber (pad : DatePad) (width : Nat) (sign : List Char) (n : Nat) : List Char :=
  let digits := decimalDigits n
  match pad with
  | .nothing => sign ++ digits
  | .zero => sign ++ fill '0' (width - sign.length) digits
  | .space => fill ' ' width (sign ++ digits)

/-- The sign of a number, which is left out for plus. -/
def minusSign (n : Int) : List Char :=
  if n < 0 then ['-'] else []

/-- A small number in two places. The tens are a single character counted on from zero, whatever
    their number; only the last eight bits of the number count. -/
def twoPlaces (pad : DatePad) (n : Int) : List Char :=
  let value := (n % 256).toNat
  let ones := Char.ofNat ('0'.toNat + value % 10)
  let tens := Char.ofNat ('0'.toNat + value / 10)
  if value / 10 = 0 then
    match pad with
    | .nothing => [ones]
    | .zero => [tens, ones]
    | .space => [' ', ones]
  else [tens, ones]

/-- A year in four places. Outside of the years 0 to 9999 it has a sign and a fifth place for it. -/
def yearText (pad : DatePad) (year : Int) : List Char :=
  if 0 ≤ year ∧ year < 10000 then padNumber pad 4 [] year.toNat
  else padNumber pad 5 [if year < 0 then '-' else '+'] year.natAbs

/-- The hour on a clock face, from one to twelve. -/
def hour12 (hour : Nat) : Nat :=
  if hour % 12 = 0 then 12 else hour % 12

def numberText (pad : DatePad) (m : Moment) : DateNumber → List Char
  | .year => yearText pad m.date.year
  | .century => twoPlaces pad (m.date.year / 100)
  | .yearOfCentury => twoPlaces pad (m.date.year % 100)
  | .weekYear => yearText pad m.date.thursdayWeek.1
  | .weekYearOfCentury => twoPlaces pad (m.date.thursdayWeek.1 % 100)
  | .quarter => decimalDigits m.date.quarter
  | .month => twoPlaces pad m.date.month
  | .day => twoPlaces pad m.date.day
  | .weekFromSunday => twoPlaces pad m.date.weekFromSunday
  | .weekFromMonday => twoPlaces pad m.date.weekFromMonday
  | .thursdayWeek => twoPlaces pad m.date.thursdayWeek.2
  | .weekday => decimalDigits m.date.weekday
  | .weekdayFromMonday => decimalDigits (m.date.weekdayFromMonday + 1)
  | .dayOfYear => padNumber pad 3 [] m.date.dayOfYear
  | .hour => twoPlaces pad m.time.hour
  | .hour12 => twoPlaces pad (hour12 m.time.hour)
  | .minute => twoPlaces pad m.time.minute
  | .second => twoPlaces pad m.time.second
  | .nanosecond => padNumber pad 9 [] m.time.nanosecond
  | .epochSeconds => padNumber pad 9 (minusSign m.epochSeconds) m.epochSeconds.natAbs

def monthNames : List String :=
  ["January", "February", "March", "April", "May", "June", "July", "August", "September",
    "October", "November", "December"]

def weekdayNames : List String :=
  ["Sunday", "Monday", "Tuesday", "Wednesday", "Thursday", "Friday", "Saturday"]

/-- A name at an index, in full or its first three letters. -/
def nameText (long : Bool) (names : List String) (index : Nat) : List Char :=
  let name := (names.getD index "").toList
  if long then name else name.take 3

/-- Digits of a fraction of a second, cut and not rounded. -/
def fractionText (count nanosecond : Nat) : List Char :=
  fill '0' count (decimalDigits (nanosecond / Nat.pow 10 (9 - count)))

/-- The text of an offset. -/
def offsetText? (seconds : Int) (form : OffsetForm) : Option (List Char) :=
  let sign := if seconds < 0 then '-' else '+'
  let size := seconds.natAbs
  let two (n : Nat) : List Char := fill '0' 2 (decimalDigits n)
  let hours := two (size / 3600)
  let minutes := two (size / 60 % 60)
  match form with
  | .joined => some (sign :: (hours ++ minutes))
  | .minutes => some (sign :: (hours ++ ':' :: minutes))
  | .seconds => some (sign :: (hours ++ ':' :: (minutes ++ ':' :: two (size % 60))))
  | .hours => some (sign :: hours)
  | .unwritable => none

def text? (m : Moment) : DateItem → Option (List Char)
  | .literal c => some [c]
  | .number field pad => some (numberText pad m field)
  | .monthName long => some (nameText long monthNames (m.date.month - 1))
  | .weekdayName long => some (nameText long weekdayNames m.date.weekday)
  | .halfOfDay upper =>
      let half := if m.time.hour < 12 then "am" else "pm"
      some (if upper then half.toList.map Char.toUpper else half.toList)
  | .fraction =>
      let n := m.time.nanosecond
      if n = 0 then some []
      else if n % 1000000 = 0 then some ('.' :: fractionText 3 n)
      else if n % 1000 = 0 then some ('.' :: fractionText 6 n)
      else some ('.' :: fractionText 9 n)
  | .fractionDigits count point =>
      let digits := fractionText count m.time.nanosecond
      some (if point then '.' :: digits else digits)
  | .offset form => m.offset.bind fun seconds => offsetText? seconds form

end DateItem

/-- A date pattern whose specifiers are all known. -/
structure DateFormat where
  pattern : String
  items : List DateItem
  deriving DecidableEq

namespace DateFormat

def ofPattern (pattern : String) : Except FormatError DateFormat :=
  match DateItem.scan? pattern.toList with
  | some items => .ok ⟨pattern, items⟩
  | none => .error (.invalidDatePattern pattern)

/-- Year, month and day with hyphens. -/
def iso : DateFormat :=
  ⟨"%Y-%m-%d", DateItem.hyphened⟩

/-- The text of a moment, unless it lacks what the pattern asks for, such as an offset. -/
def format? (f : DateFormat) (m : Moment) : Option String :=
  (f.items.mapM (DateItem.text? m)).map fun parts => String.ofList parts.flatten

/-- Reads a text as a moment and formats it. -/
def formatText? (f : DateFormat) (text : String) : Option String :=
  (Moment.ofText? text).bind f.format?

end DateFormat

example : (DateFormat.ofPattern "%Y-%m-%d").toOption = some .iso := by decide +kernel

end PageMap
