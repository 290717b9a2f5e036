import NetTimeline.Calendar.Absolute
import NetTimeline.Calendar.Relative
import NetTimeline.Calendar.Zone

/-!
# Date expressions

A moment is written as a date of the calendar with an optional time of day and zone
(`2025-06-08 15:00 EST`, `June 8, 2025`, `06/08/2025`), relative to the present (`yesterday`,
`2 days ago`, `in 1 hour 30 minutes`), or as a number of seconds since 1970, perhaps with three or
six more digits for their fraction. Letter case and blanks around do not matter. A missing time of
day is midnight, a missing zone universal time.

`readMoment` stands for `dateparser.parse` on expressions of these forms. The library reads more, in
more languages, which is `unreadable` here; so what is proved about dates takes any reader, and only
what is about this grammar itself takes `readMoment`.
-/

set_option autoImplicit false

namespace NetTimeline.Calendar

/-- Why an expression has no moment. -/
inductive ExpressionError where
  | unreadable
  /-- In universal time, the moment is not in the years 1 to 9999. -/
  | outOfRange
  deriving DecidableEq, Repr

/-- The moment so many microseconds since 1970 that a single number tells in seconds, milliseconds
or microseconds. A point may follow, and digits that do not count. -/
def readSinceEpoch? : List Piece → Option Moment
  | .number digits :: rest =>
    if [10, 13, 16].contains digits.length && digits.all Char.isDigit && (rest = [] ||
        rest.head? = some (.mark '.') && rest.all fun piece => !(piece matches .word _)) then
      Moment.ofMicros? (digitsValue digits * Nat.pow 10 (16 - digits.length) : Nat)
    else none
  | _ => none

/-- The moment of a date of the calendar. -/
def readCalendar (present : Moment) (cs : List Char) : Except ExpressionError Moment :=
  let (front, zone) := (splitZone? cs).getD (cs, 0)
  match readDateTime? present.date (Piece.read front) with
  | none => .error .unreadable
  | some (date, time) =>
    match Moment.ofMicros? (date.toDays * microsPerDay + time - zone * 60 * microsPerSecond) with
    | some moment => .ok moment
    | none => .error .outOfRange

/-- The moment of a date expression. -/
def readMoment (present : Moment) (s : String) : Except ExpressionError Moment :=
  let cs := plainText s
  let pieces := Piece.read cs
  match (readSinceEpoch? pieces).or (readRelative? present pieces) with
  | some moment => .ok moment
  | none => readCalendar present cs

end NetTimeline.Calendar
