/-! # Calendar dates

Days of the proleptic Gregorian calendar, their place in the year and in the week, and the weeks of
the year.
-/

namespace PageMap

/-- A day, by year, month and day of the month. Year zero is the year before year one. -/
structure Date where
  year : Int
  month : Nat
  day : Nat
  deriving DecidableEq

namespace Date

/-- The first year that dates are made for. -/
def minYear : Int := -262143

/-- The last year that dates are made for. -/
def maxYear : Int := 262142

/-- A year of 366 days. -/
def isLeap (year : Int) : Bool :=
  year % 4 = 0 && (year % 100 ≠ 0 || year % 400 = 0)

def monthLength (year : Int) (month : Nat) : Nat :=
  if month = 2 then (if isLeap year then 29 else 28)
  else if month = 4 ∨ month = 6 ∨ month = 9 ∨ month = 11 then 30
  else 31

def make? (year : Int) (month day : Nat) : Option Date :=
  if minYear ≤ year ∧ year ≤ maxYear ∧ 1 ≤ month ∧ month ≤ 12 ∧ 1 ≤ day ∧
      day ≤ monthLength year month then
    some ⟨year, month, day⟩
  else none

def daysBefore (year : Int) (month : Nat) : Nat :=
  (List.range (month - 1)).foldl (fun days m => days + monthLength year (m + 1)) 0

/-- The day of the year, counted from one. -/
def dayOfYear (d : Date) : Nat :=
  daysBefore d.year d.month + d.day

/-- The days from the first day of the year one to the first day of a year. -/
def daysToYear (year : Int) : Int :=
  let y := year - 1
  365 * y + y / 4 - y / 100 + y / 400

/-- The days from the first day of 1970, which may be negative. -/
def daysSince1970 (d : Date) : Int :=
  daysToYear d.year - daysToYear 1970 + (d.dayOfYear - 1 : Nat)

/-- The day of the week, counted from Sunday as zero. The first day of 1970 was a Thursday. -/
def weekday (d : Date) : Nat :=
  ((d.daysSince1970 + 4) % 7).toNat

def weekdayFromMonday (d : Date) : Nat :=
  (d.weekday + 6) % 7

def quarter (d : Date) : Nat :=
  (d.month - 1) / 3 + 1

/-- The week of the year where weeks begin on Sunday; the days before the first Sunday are in week
    zero. -/
def weekFromSunday (d : Date) : Nat :=
  (d.dayOfYear + 6 - d.weekday) / 7

/-- The week of the year where weeks begin on Monday; the days before the first Monday are in week
    zero. -/
def weekFromMonday (d : Date) : Nat :=
  (d.dayOfYear + 6 - d.weekdayFromMonday) / 7

/-- The number of weeks of a year whose weeks belong to the year of their Thursday: 53 if the year
    begins or ends on a Thursday, else 52. -/
def thursdayWeeks (year : Int) : Nat :=
  let first := (Date.mk year 1 1).weekday
  let last := (Date.mk year 12 31).weekday
  if first = 4 ∨ last = 4 then 53 else 52

/-- The week and its year where a week belongs to the year of its Thursday. -/
def thursdayWeek (d : Date) : Int × Nat :=
  let week := (d.dayOfYear + 9 - d.weekdayFromMonday) / 7
  if week = 0 then (d.year - 1, thursdayWeeks (d.year - 1))
  else if thursdayWeeks d.year < week then (d.year + 1, 1)
  else (d.year, week)

end Date

example : (Date.mk 2024 3 9).weekday = 6 := by decide
example : (Date.mk 2021 1 3).thursdayWeek = (2020, 53) := by decide
example : (Date.mk 1969 12 31).daysSince1970 = -1 := by decide

end PageMap
