import QueryPlan.Calendar.Date

set_option autoImplicit false

/-! # Timestamps

A timestamp is an instant, counted in nanoseconds from the beginning of 1970 in UTC, together with
the UTC offset in which it is shown. -/

namespace QueryPlan

/-- The first instant that a signed 128-bit count of nanoseconds cannot hold, 2 to the power
    127. -/
def Timestamp.instantLimit : Int := 170141183460469231731687303715884105728

/-- An instant that fits a signed 128-bit count of nanoseconds, and an offset in seconds. -/
structure Timestamp where
  instant : Int
  offset : Int
  lower_le : -Timestamp.instantLimit ≤ instant := by decide
  lt_upper : instant < Timestamp.instantLimit := by decide
deriving DecidableEq

namespace Timestamp

/-- The number of nanoseconds in a second. -/
def nanosPerSecond : Int := 1000000000

/-- The number of seconds in a day. -/
def secondsPerDay : Int := 86400

/-- The Julian day number of 1 January 1970. -/
def epochDay : Int := 2440588

/-- The timestamp of an instant, when it is in range. -/
def ofInstant? (instant offset : Int) : Option Timestamp :=
  if h : -instantLimit ≤ instant ∧ instant < instantLimit then some ⟨instant, offset, h.1, h.2⟩
  else none

@[simp] theorem ofInstant?_self (t : Timestamp) : ofInstant? t.instant t.offset = some t :=
  dif_pos ⟨t.lower_le, t.lt_upper⟩

/-- The whole seconds of the instant, rounded down. -/
def seconds (t : Timestamp) : Int :=
  t.instant / nanosPerSecond

/-- The nanoseconds of the instant beyond its whole seconds. -/
def nanos (t : Timestamp) : Nat :=
  (t.instant % nanosPerSecond).toNat

theorem seconds_nanos (t : Timestamp) :
    t.seconds * nanosPerSecond + t.nanos = t.instant := by
  simp only [seconds, nanos, nanosPerSecond]
  omega

/-- The whole seconds of the instant as a clock at the offset shows them. -/
def localSeconds (t : Timestamp) : Int :=
  t.seconds + t.offset

/-- A count of seconds as hours, minutes and seconds. -/
def clock (seconds : Nat) : Nat × Nat × Nat :=
  (seconds / 3600, seconds / 60 % 60, seconds % 60)

/-- The fraction of a second without trailing zeros, with at least one digit. -/
def fractionText (nanos : Nat) : String :=
  let digits := ((Text.padded 9 nanos).toList.reverse.dropWhile (· = '0')).reverse
  if digits.isEmpty then "0" else String.ofList digits

/-- An offset as sign, hours, minutes and seconds. -/
def offsetText (offset : Int) : String :=
  let (hours, minutes, seconds) := clock offset.natAbs
  (if offset < 0 then "-" else "+") ++ Text.padded 2 hours ++ ":" ++ Text.padded 2 minutes ++ ":" ++
    Text.padded 2 seconds

/-- A timestamp as date, time of day and offset, all at that offset. The hour is not padded. -/
def text (t : Timestamp) : String :=
  let day := Calendar.civilDay (epochDay + t.localSeconds / secondsPerDay)
  let (hours, minutes, seconds) := clock (t.localSeconds % secondsPerDay).toNat
  day.text ++ " " ++ toString hours ++ ":" ++ Text.padded 2 minutes ++ ":" ++
    Text.padded 2 seconds ++ "." ++ fractionText t.nanos ++ " " ++ offsetText t.offset

end Timestamp

end QueryPlan
