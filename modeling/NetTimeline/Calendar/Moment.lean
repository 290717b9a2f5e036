import NetTimeline.Calendar.Date
import NetTimeline.Number.Basic

/-!
# Moments in universal time

Reference model of `datetime` in universal time, with `fromtimestamp` and `isoformat`. A moment is a
number of microseconds since 1970-01-01T00:00:00 that lies in the years 1 to 9999.
`Moment.ofSeconds` rounds a binary64 number of seconds to it.

Main statements: `Moment.startOfDay_le`, `Moment.le_endOfDay` — a moment lies in its own day;
`Moment.endOfDay_micros` — a day ends one microsecond before the next.
-/

set_option autoImplicit false

namespace NetTimeline.Calendar

def microsPerSecond : Nat := 1000000

def microsPerDay : Nat := 86400 * microsPerSecond

/-- The first microsecond of 0001-01-01. -/
def firstMicros : Int := -719162 * microsPerDay

/-- The first microsecond past 9999-12-31. -/
def pastMicros : Int := 2932897 * microsPerDay

/-- A moment in universal time. -/
structure Moment where
  micros : Int
  first_le : firstMicros ≤ micros
  lt_past : micros < pastMicros
  deriving DecidableEq

/-- Why a number of seconds is no moment. -/
inductive MomentError where
  /-- The seconds are beyond 64 bits. -/
  | beyondClock
  /-- The year, counted from 1900, is beyond 32 bits. -/
  | beyondYears
  /-- The year is not one of 1 to 9999; it is shown as a 32-bit number. -/
  | yearOutOfRange (shown : Int)
  deriving DecidableEq, Repr

def MomentError.message : MomentError → String
  | .beyondClock => "timestamp out of range for platform time_t"
  | .beyondYears => "[Errno 75] Value too large for defined data type"
  | .yearOutOfRange shown => "year " ++ intNumeral shown ++ " is out of range"

namespace Moment

/-- The moment from which microseconds are counted. -/
def epochStart : Moment := ⟨0, by decide, by decide⟩

def ofMicros? (micros : Int) : Option Moment :=
  if h : firstMicros ≤ micros ∧ micros < pastMicros then some ⟨micros, h.1, h.2⟩ else none

/-- The day of a moment, counted from 1970-01-01. -/
def dayNumber (moment : Moment) : Int := moment.micros / microsPerDay

def date (moment : Moment) : Date := .ofDays moment.dayNumber

/-- The microseconds since midnight. -/
def timeOfDay (moment : Moment) : Nat := (moment.micros % microsPerDay).toNat

/-- A moment on a given day, so many microseconds after midnight. -/
def ofDayTime? (day : Int) (time : Nat) : Option Moment :=
  ofMicros? (day * microsPerDay + time)

/-- Midnight at the start of the day. -/
def startOfDay (moment : Moment) : Moment where
  micros := moment.dayNumber * microsPerDay
  first_le := by
    have := moment.first_le
    unfold dayNumber firstMicros microsPerDay microsPerSecond at *
    omega
  lt_past := by
    have := moment.lt_past
    unfold dayNumber pastMicros microsPerDay microsPerSecond at *
    omega

/-- The last microsecond of the day. -/
def endOfDay (moment : Moment) : Moment where
  micros := moment.dayNumber * microsPerDay + (microsPerDay - 1)
  first_le := by
    have := moment.first_le
    unfold dayNumber firstMicros microsPerDay microsPerSecond at *
    omega
  lt_past := by
    have := moment.lt_past
    unfold dayNumber pastMicros microsPerDay microsPerSecond at *
    omega

theorem startOfDay_le (moment : Moment) : moment.startOfDay.micros ≤ moment.micros := by
  simp only [startOfDay, dayNumber, microsPerDay, microsPerSecond]
  omega

theorem le_endOfDay (moment : Moment) : moment.micros ≤ moment.endOfDay.micros := by
  simp only [endOfDay, dayNumber, microsPerDay, microsPerSecond]
  omega

theorem endOfDay_micros (moment : Moment) :
    moment.endOfDay.micros + 1 = moment.startOfDay.micros + microsPerDay := by
  simp only [endOfDay, startOfDay]
  omega

/-- The first number of seconds beyond 64 bits with a sign. -/
def secondsLimit : Nat := 9223372036854775808

/-- The first number of years beyond 32 bits with a sign. -/
def yearsLimit : Nat := 2147483648

/-- A moment from a number of microseconds in any year. -/
def ofMicros (micros : Int) : Except MomentError Moment :=
  if h : firstMicros ≤ micros ∧ micros < pastMicros then .ok ⟨micros, h.1, h.2⟩
  else
    let seconds := micros / microsPerSecond
    let year := yearOfDay (micros / microsPerDay + epoch)
    if seconds < -secondsLimit ∨ secondsLimit ≤ seconds then .error .beyondClock
    else if year - 1900 < -yearsLimit ∨ yearsLimit ≤ year - 1900 then .error .beyondYears
    else .error (.yearOutOfRange (Int.bmod year (2 * yearsLimit)))

/-- The microseconds of a binary64 number of seconds: the fraction is multiplied by a million in
binary64 and rounded to the nearest whole number, half to even. -/
def microsOfSeconds (seconds : Finite64) : Int :=
  let size := seconds.magnitude.units
  let product := roundToGrid (size % unitsPerOne * microsPerSecond) 1
  let micros : Int := size / unitsPerOne * microsPerSecond + roundHalfEven product unitsPerOne
  if seconds.negative then -micros else micros

/-- The moment of a binary64 number of seconds since 1970-01-01T00:00:00 (`fromtimestamp`). -/
def ofSeconds : Binary64 → Except MomentError Moment
  | .finite seconds => ofMicros (microsOfSeconds seconds)
  | _ => .error .beyondClock

/-- A number with zeros in front, up to a width. -/
def padded (width n : Nat) : String :=
  String.ofList (Text.padZeros width (Nat.toDigits 10 n))

/-- Date and time with a `T` in between; the fraction of a second is left out if it is zero
(`isoformat`). -/
def isoText (moment : Moment) : String :=
  let date := moment.date
  let seconds := moment.timeOfDay / microsPerSecond
  let fraction := moment.timeOfDay % microsPerSecond
  padded 4 date.year.toNat ++ "-" ++ padded 2 date.month ++ "-" ++ padded 2 date.day ++ "T" ++
    padded 2 (seconds / 3600) ++ ":" ++ padded 2 (seconds / 60 % 60) ++ ":" ++
    padded 2 (seconds % 60) ++ (if fraction = 0 then "" else "." ++ padded 6 fraction)

end Moment

end NetTimeline.Calendar
