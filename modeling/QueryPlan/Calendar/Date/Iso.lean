import QueryPlan.Calendar.Date
import QueryPlan.Numeric.Binary64.Fraction

set_option autoImplicit false

/-! # Reading ISO 8601 dates

A date is written with the month and the day, with the day of the year, or with a week and its day,
in the extended form (`2024-02-29`, `2024-060`, `2024-W09-4`) or in the basic form (`20240229`,
`2024060`, `2024W094`); which of the two is seen at the mark behind the year. A time of day and a
UTC offset may follow. They are checked for their form and their ranges and do not change the
date. The fraction of an hour or of a second is a floating point number, and one so close to 1 that
it comes out as the whole unit is refused. -/

namespace QueryPlan.Date.Iso

/-! ## Pieces -/

/-- Whether the parts of a date are set apart by hyphens and those of a time by colons. -/
inductive Style
  | basic
  | extended
deriving DecidableEq

/-- Takes one given character off the front. -/
def skip? (mark : Char) : List Char → Option (List Char)
  | [] => none
  | c :: rest => if c = mark then some rest else none

/-- Takes the mark between two parts off the front, if the style has one. -/
def skipMark? (style : Style) (mark : Char) (cs : List Char) : Option (List Char) :=
  match style with
  | .basic => some cs
  | .extended => skip? mark cs

/-- A positive number of exactly `width` digits, at most `bound`. -/
def readCounted? (width bound : Nat) (cs : List Char) : Option (Nat × List Char) := do
  let (value, rest) ← Text.takeNat? width cs
  if 1 ≤ value ∧ value ≤ bound then some (value, rest) else none

/-- A year: four digits, or a sign and six digits. -/
def readYear? : List Char → Option (Int × List Char)
  | '+' :: rest => (Text.takeNat? 6 rest).map fun (year, rest) => (year, rest)
  | '-' :: rest => (Text.takeNat? 6 rest).map fun (year, rest) => (-year, rest)
  | cs => (Text.takeNat? 4 cs).map fun (year, rest) => (year, rest)

/-- A two-digit number with an optional fraction, set off by a point or a comma. -/
def readUnit? (cs : List Char) : Option (Nat × Option Binary64 × List Char) := do
  let (value, rest) ← Text.takeNat? 2 cs
  match rest with
  | mark :: decimals =>
    if mark = '.' ∨ mark = ',' then
      let (digits, rest) := Text.spanDigits decimals
      if digits.isEmpty then none else some (value, some (Binary64.ofFraction digits), rest)
    else some (value, none, rest)
  | [] => some (value, none, rest)

/-! ## The parts of a date -/

/-- The day within the year in one of its three notations. -/
inductive DayOfYear
  | month (month day : Nat)
  | ordinal (day : Nat)
  | week (week day : Nat)
deriving DecidableEq

/-- A month and a day of the month. -/
def readMonthDay? (style : Style) (cs : List Char) : Option (DayOfYear × List Char) := do
  let (month, rest) ← readCounted? 2 12 cs
  let rest ← skipMark? style '-' rest
  let (day, rest) ← readCounted? 2 99 rest
  return (.month month day, rest)

/-- A day of the year. -/
def readOrdinal? (cs : List Char) : Option (DayOfYear × List Char) := do
  let (day, rest) ← readCounted? 3 999 cs
  return (.ordinal day, rest)

/-- A week and a day of the week. -/
def readWeek? (style : Style) (cs : List Char) : Option (DayOfYear × List Char) := do
  let rest ← skip? 'W' cs
  let (week, rest) ← readCounted? 2 99 rest
  let rest ← skipMark? style '-' rest
  let (day, rest) ← readCounted? 1 7 rest
  return (.week week day, rest)

/-- The first notation that fits the front of the text; the others are not tried again, also when
    the date turns out not to exist. -/
def readDayOfYear? (style : Style) (cs : List Char) : Option (DayOfYear × List Char) :=
  ((readMonthDay? style cs).orElse fun _ => readOrdinal? cs).orElse fun _ => readWeek? style cs

/-- The date of a day in a year. -/
def DayOfYear.date? (year : Int) : DayOfYear → Option Date
  | .month m d => ofCivil? year m d
  | .ordinal d => ofOrdinal? year d
  | .week w d => ofWeek? year w d

/-! ## A time behind the date -/

/-- Whether a fraction of an hour stays below sixty whole minutes. -/
def isHourFraction (fraction : Binary64) : Bool :=
  (fraction.scale 60).floor < 60

/-- Whether a fraction of a second, rounded to nanoseconds, stays below a whole second. -/
def isSecondFraction (fraction : Binary64) : Bool :=
  (fraction.scale 1000000000).nearestNat < 1000000000

/-- Skips the seconds of a time: up to 60, with an optional fraction. Only the basic style may
    leave them out here. -/
def skipSeconds? (style : Style) (cs : List Char) : Option (List Char) :=
  match readUnit? cs with
  | some (second, fraction, rest) =>
    if second ≤ 60 ∧ fraction.all isSecondFraction then some rest else none
  | none => if style = .extended then none else some cs

/-- Skips the minutes of a time and what follows them. A fraction of a minute ends the time; sixty
    seconds are no more than a second may count, so every fraction will do. -/
def skipMinutes? (style : Style) (cs : List Char) : Option (List Char) :=
  match readUnit? cs with
  | some (minute, fraction, rest) =>
    if 59 < minute then none
    else if fraction.isSome then some rest
    else
      match style, rest with
      | .basic, _ => skipSeconds? style rest
      | .extended, ':' :: rest => skipSeconds? style rest
      | .extended, _ => some rest
  | none => if style = .extended then none else some cs

/-- Skips a time: the hour and what follows it. A fraction of an hour ends the time; a colon fits
    the extended style only. -/
def skipTime? (style : Style) (cs : List Char) : Option (List Char) := do
  let (hour, fraction, rest) ← readUnit? cs
  if 23 < hour then none
  else
    match fraction, style, rest with
    | some fraction, _, _ => if isHourFraction fraction then some rest else none
    | none, .basic, ':' :: _ => none
    | none, .extended, ':' :: rest => skipMinutes? style rest
    | none, _, _ => skipMinutes? style rest

/-- Skips a UTC offset: `Z`, or a sign with hours up to 25 and optional minutes. -/
def skipOffset? (style : Style) : List Char → Option (List Char)
  | 'Z' :: rest => some rest
  | sign :: cs =>
    if sign = '+' ∨ sign = '-' then do
      let (hour, rest) ← Text.takeNat? 2 cs
      if 25 < hour then none
      else
        let rest := if style = .extended then (skip? ':' rest).getD rest else rest
        match Text.takeNat? 2 rest with
        | some (minute, rest) => if minute ≤ 59 then some rest else none
        | none => some rest
    else none
  | [] => none

/-- Whether the text behind a date is empty, or a time with an optional offset. -/
def isTail (style : Style) : List Char → Bool
  | [] => true
  | 'T' :: cs =>
    match skipTime? style cs with
    | some [] => true
    | some rest => skipOffset? style rest = some []
    | none => false
  | _ => false

/-! ## Dates -/

/-- Reads a date. -/
def read? (cs : List Char) : Option Date := do
  let (year, rest) ← readYear? cs
  let (style, rest) :=
    match rest with
    | '-' :: rest => (Style.extended, rest)
    | _ => (Style.basic, rest)
  let (day, rest) ← readDayOfYear? style rest
  if isTail style rest then day.date? year else none

end QueryPlan.Date.Iso
