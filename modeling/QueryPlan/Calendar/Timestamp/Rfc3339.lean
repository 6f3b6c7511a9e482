import QueryPlan.Calendar.Timestamp

set_option autoImplicit false

/-! # Reading RFC 3339 timestamps

A timestamp is written as `YYYY-MM-DD`, any one ASCII character, `hh:mm:ss` with an optional
fraction, and an offset: `Z` or a sign with `hh:mm`. -/

namespace QueryPlan.Timestamp.Rfc3339

/-- Takes one given character off the front. -/
def expect? (mark : Char) : List Char → Option (List Char)
  | [] => none
  | c :: rest => if c = mark then some rest else none

/-- A number of exactly `width` digits, at most `bound`. -/
def readBounded? (width bound : Nat) (cs : List Char) : Option (Nat × List Char) := do
  let (value, rest) ← Text.takeNat? width cs
  if value ≤ bound then some (value, rest) else none

/-- A date as `YYYY-MM-DD`. -/
def readDate? (cs : List Char) : Option (Date × List Char) := do
  let (year, rest) ← Text.takeNat? 4 cs
  let (month, rest) ← Text.takeNat? 2 (← expect? '-' rest)
  let (day, rest) ← Text.takeNat? 2 (← expect? '-' rest)
  return (← Date.ofCivil? year month day, rest)

/-- Takes the character between date and time off the front. -/
def skipSeparator? : List Char → Option (List Char)
  | [] => none
  | c :: rest => if c.toNat < 128 then some rest else none

/-- The nanoseconds of an optional fraction; digits beyond the ninth are cut off. -/
def readFraction? : List Char → Option (Nat × List Char)
  | '.' :: cs =>
    let (digits, rest) := Text.spanDigits cs
    if digits.isEmpty then none
    else some (Text.ofDigits ((digits ++ List.replicate 9 0).take 9), rest)
  | cs => some (0, cs)

/-- An offset in seconds: `Z` in either case, or a sign with hours and minutes. -/
def readOffset? : List Char → Option (Int × List Char)
  | [] => none
  | mark :: cs =>
    if mark = 'Z' ∨ mark = 'z' then some (0, cs)
    else if mark = '+' ∨ mark = '-' then do
      let (hours, rest) ← readBounded? 2 23 cs
      let (minutes, rest) ← readBounded? 2 59 (← expect? ':' rest)
      let seconds : Int := hours * 3600 + minutes * 60
      return (if mark = '-' then -seconds else seconds, rest)
    else none

/-- Whether an instant, in seconds, is the last second of a month in UTC, where a leap second may
    follow. -/
def endsMonth (seconds : Int) : Bool :=
  let day := Calendar.civilDay (epochDay + seconds / secondsPerDay)
  seconds % secondsPerDay = secondsPerDay - 1 && day.day = Calendar.daysInMonth day.year day.month

/-- Reads a timestamp. A leap second is taken for the last nanosecond before it, and only where a
    leap second can be. -/
def read? (cs : List Char) : Option Timestamp := do
  let (date, rest) ← readDate? cs
  let (hours, rest) ← readBounded? 2 23 (← skipSeparator? rest)
  let (minutes, rest) ← readBounded? 2 59 (← expect? ':' rest)
  let (seconds, rest) ← readBounded? 2 60 (← expect? ':' rest)
  let (nanos, rest) ← readFraction? rest
  let (offset, rest) ← readOffset? rest
  let isLeap := seconds = 60
  let days := date.julianDay - epochDay
  let clock : Int := hours * 3600 + minutes * 60 + min seconds 59
  let utc := days * secondsPerDay + clock - offset
  let nanos := if isLeap then 999999999 else nanos
  if rest.isEmpty ∧ (isLeap → endsMonth utc) then
    ofInstant? (utc * nanosPerSecond + nanos) offset
  else none

end QueryPlan.Timestamp.Rfc3339
