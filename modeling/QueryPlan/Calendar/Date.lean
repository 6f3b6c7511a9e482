import QueryPlan.Text.Digits

set_option autoImplicit false

/-! # Dates

Dates of the proleptic Gregorian calendar in the years -9999 to 9999, year 0 included. A date is
kept as its Julian day number, so that equal dates are equal numbers; year, month and day are views
of it. -/

namespace QueryPlan

/-! ## Calendar arithmetic -/

namespace Calendar

/-- Whether a year has a 29 February. -/
def isLeapYear (year : Int) : Bool :=
  year % 4 = 0 && (year % 100 ≠ 0 || year % 400 = 0)

/-- The number of days in a year. -/
def daysInYear (year : Int) : Nat :=
  if isLeapYear year then 366 else 365

/-- The number of days in a month, counted from 1; there is no other month. -/
def daysInMonth (year : Int) (month : Nat) : Nat :=
  match month with
  | 2 => if isLeapYear year then 29 else 28
  | 4 | 6 | 9 | 11 => 30
  | 1 | 3 | 5 | 7 | 8 | 10 | 12 => 31
  | _ => 0

/-- The Julian day number of 1 March of year 0, where the 400-year cycles are counted from. -/
def cycleStart : Int := 1721120

/-- The number of days in a 400-year cycle. -/
def cycleDays : Nat := 146097

/-- The Julian day number of a day of a month. Years are counted from March here, so that the leap
    day is the last day of its year. -/
def julianDay (year : Int) (month day : Nat) : Int :=
  let marchYear := if month ≤ 2 then year - 1 else year
  let cycle := marchYear / 400
  let yearOfCycle := (marchYear % 400).toNat
  let dayOfYear := (153 * ((month + 9) % 12) + 2) / 5 + day - 1
  let dayOfCycle := yearOfCycle * 365 + yearOfCycle / 4 - yearOfCycle / 100 + dayOfYear
  cycleStart + cycle * cycleDays + dayOfCycle

/-- A day as it is written: year, month and day of the month. -/
structure CivilDay where
  year : Int
  month : Nat
  day : Nat
deriving DecidableEq

/-- The day with this Julian day number. -/
def civilDay (julianDay : Int) : CivilDay :=
  let days := julianDay - cycleStart
  let cycle := days / cycleDays
  let dayOfCycle := (days % cycleDays).toNat
  let yearOfCycle :=
    (dayOfCycle - dayOfCycle / 1460 + dayOfCycle / 36524 - dayOfCycle / 146096) / 365
  let dayOfYear := dayOfCycle - (365 * yearOfCycle + yearOfCycle / 4 - yearOfCycle / 100)
  let marchMonth := (5 * dayOfYear + 2) / 153
  let month := if marchMonth < 10 then marchMonth + 3 else marchMonth - 9
  let marchYear := cycle * 400 + yearOfCycle
  { year := if month ≤ 2 then marchYear + 1 else marchYear
    month := month
    day := dayOfYear - (153 * marchMonth + 2) / 5 + 1 }

/-- The day of the week, 0 for Monday. -/
def weekday (julianDay : Int) : Nat :=
  (julianDay % 7).toNat

/-- The Monday of the first week of a year, the week with 4 January in it. -/
def firstMonday (year : Int) : Int :=
  let fourth := julianDay year 1 4
  fourth - weekday fourth

/-- The number of weeks of a year, 52 or 53. -/
def weeksInYear (year : Int) : Nat :=
  ((firstMonday (year + 1) - firstMonday year) / 7).toNat

/-- A day as `YYYY-MM-DD`; a minus stands before negative years. -/
def CivilDay.text (d : CivilDay) : String :=
  Text.signText (d.year < 0) ++ Text.padded 4 d.year.natAbs ++ "-" ++ Text.padded 2 d.month ++
    "-" ++ Text.padded 2 d.day

end Calendar

/-! ## Dates in range -/

/-- A date by its Julian day number, from 1 January -9999 to 31 December 9999. -/
structure Date where
  julianDay : Int
  first_le : -1930999 ≤ julianDay := by decide
  le_last : julianDay ≤ 5373484 := by decide
deriving DecidableEq

namespace Date

open Calendar

/-- The date with this Julian day number, when it is in range. -/
def ofJulianDay? (day : Int) : Option Date :=
  if h : -1930999 ≤ day ∧ day ≤ 5373484 then some ⟨day, h.1, h.2⟩ else none

@[simp] theorem ofJulianDay?_self (d : Date) : ofJulianDay? d.julianDay = some d :=
  dif_pos ⟨d.first_le, d.le_last⟩

/-- Whether dates of this year exist. -/
def isYear (year : Int) : Bool :=
  -9999 ≤ year && year ≤ 9999

/-- The date of a day of a month. -/
def ofCivil? (year : Int) (month day : Nat) : Option Date :=
  if isYear year ∧ 1 ≤ day ∧ day ≤ daysInMonth year month then
    ofJulianDay? (Calendar.julianDay year month day)
  else none

/-- The date of a day of a year, counted from 1. -/
def ofOrdinal? (year : Int) (day : Nat) : Option Date :=
  if isYear year ∧ 1 ≤ day ∧ day ≤ daysInYear year then
    ofJulianDay? (Calendar.julianDay year 1 1 + (day - 1))
  else none

/-- The date of a day of a week, both counted from 1. Weeks begin on Monday, and the first week of
    a year is the one with 4 January in it; its days may lie in a neighbouring year. -/
def ofWeek? (year : Int) (week day : Nat) : Option Date :=
  if isYear year ∧ 1 ≤ week ∧ week ≤ weeksInYear year ∧ 1 ≤ day ∧ day ≤ 7 then
    ofJulianDay? (firstMonday year + 7 * ((week : Int) - 1) + ((day : Int) - 1))
  else none

/-- Year, month and day of the month. -/
def civil (d : Date) : CivilDay :=
  civilDay d.julianDay

/-- A date as `YYYY-MM-DD`. -/
def text (d : Date) : String :=
  d.civil.text

end Date

end QueryPlan
