/-! Days of the Gregorian calendar, from the first day of year 1 on. A day is its number counted
from there, or a year, a month and a day of the month; weeks begin on Monday, and the first week of
a year is the one with its first Thursday. -/

namespace Bookmarks

/-- The number of days from the first day of year 1 to the last day of year 9999. -/
def dayCount : Nat := 3652059

structure Date where
  year : Nat
  month : Nat
  day : Nat
  deriving DecidableEq, Repr

namespace Date

def isLeap (year : Nat) : Bool := year % 4 == 0 && (year % 100 != 0 || year % 400 == 0)

def daysBeforeYear (year : Nat) : Nat :=
  (year - 1) * 365 + (year - 1) / 4 - (year - 1) / 100 + (year - 1) / 400

def monthLengths (leap : Bool) : List Nat :=
  [31, if leap then 29 else 28, 31, 30, 31, 30, 31, 31, 30, 31, 30, 31]

def daysInMonth (year month : Nat) : Nat := (monthLengths (isLeap year)).getD (month - 1) 0

def daysBeforeMonth (year month : Nat) : Nat :=
  ((monthLengths (isLeap year)).take (month - 1)).foldl (· + ·) 0

def isValid (d : Date) : Bool :=
  decide (1 ≤ d.year ∧ d.year ≤ 9999 ∧ 1 ≤ d.month ∧ d.month ≤ 12 ∧ 1 ≤ d.day ∧
    d.day ≤ daysInMonth d.year d.month)

/-- The days that went before. -/
def number (d : Date) : Nat :=
  daysBeforeYear d.year + daysBeforeMonth d.year d.month + (d.day - 1)

/-- The year of a day: whole spans of 400, 100, 4 and 1 years, the last span of a kind being longer
than the others. -/
def yearOf (n : Nat) : Nat :=
  let inEra := n % 146097
  let century := min 3 (inEra / 36524)
  let inCentury := inEra - century * 36524
  let inSpan := inCentury % 1461
  400 * (n / 146097) + 100 * century + 4 * (inCentury / 1461) + min 3 (inSpan / 365) + 1

/-- Counts off months of the given lengths, the first one having number `month`. -/
def countOff : List Nat → Nat → Nat → Nat × Nat
  | [], month, rest => (month, rest + 1)
  | length :: lengths, month, rest =>
    if rest < length then (month, rest + 1) else countOff lengths (month + 1) (rest - length)

def ofNumber (n : Nat) : Date :=
  let year := yearOf n
  let (month, day) := countOff (monthLengths (isLeap year)) 1 (n - daysBeforeYear year)
  ⟨year, month, day⟩

/-- Whether a year has a week 53: its first day is a Thursday, or a Wednesday in a leap year. -/
def hasLongYear (year : Nat) : Bool :=
  let first := daysBeforeYear year % 7
  first == 3 || (first == 2 && isLeap year)

/-- The number of the Monday that begins the first week of a year; day 0 is a Monday. -/
def firstMonday (year : Nat) : Nat :=
  let first := daysBeforeYear year
  if first % 7 ≤ 3 then first - first % 7 else first + 7 - first % 7

/-- The number of a day given by year, week and weekday, Monday being 1. -/
def numberOfWeek? (year week weekday : Nat) : Option Nat :=
  if year = 0 ∨ week = 0 ∨ 53 < week ∨ weekday = 0 ∨ 7 < weekday then none
  else if week = 53 && !hasLongYear year then none
  else
    let n := firstMonday year + (week - 1) * 7 + (weekday - 1)
    if n < dayCount then some n else none

/-- The digits of a number, at least `width` of them. -/
def padded (width n : Nat) : List Char :=
  let digits := Nat.toDigits 10 n
  List.replicate (width - digits.length) '0' ++ digits

def text (d : Date) : List Char :=
  padded 4 d.year ++ '-' :: (padded 2 d.month ++ '-' :: padded 2 d.day)

end Date

end Bookmarks
