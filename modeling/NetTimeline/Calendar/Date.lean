/-!
# Dates of the proleptic Gregorian calendar

Reference model of the dates of `datetime`. A date is a year, a month and a day. `Date.toDays`
counts the days since 1970-01-01, and `Date.ofDays` finds the date of a day, in any year.

Main statements: `daysBeforeYear_succ` — a year has 365 days, and one more if it is a leap year;
`daysBeforeYear_yearOfDay_le`, `lt_daysBeforeYear_yearOfDay` — a day lies in the year that is found
for it.
-/

set_option autoImplicit false

namespace NetTimeline.Calendar

structure Date where
  year : Int
  month : Nat
  day : Nat
  deriving DecidableEq, Repr

def isLeapYear (year : Int) : Bool :=
  year % 4 == 0 && (year % 100 != 0 || year % 400 == 0)

/-- The lengths of the months. -/
def monthLengths (leap : Bool) : List Nat :=
  [31, if leap then 29 else 28, 31, 30, 31, 30, 31, 31, 30, 31, 30, 31]

/-- The number of days of a month; none in a month that does not exist. -/
def daysInMonth (year : Int) (month : Nat) : Nat :=
  if month = 0 then 0 else ((monthLengths (isLeapYear year))[month - 1]?).getD 0

/-- The days from 0001-01-01 to the first day of a year. -/
def daysBeforeYear (year : Int) : Int :=
  let past := year - 1
  365 * past + past / 4 - past / 100 + past / 400

theorem daysBeforeYear_succ (year : Int) :
    daysBeforeYear (year + 1) = daysBeforeYear year + (if isLeapYear year then 366 else 365) := by
  unfold daysBeforeYear isLeapYear
  dsimp only
  split
  · rename_i h
    simp only [Bool.and_eq_true, Bool.or_eq_true, beq_iff_eq, bne_iff_ne] at h
    omega
  · rename_i h
    simp only [Bool.and_eq_true, Bool.or_eq_true, beq_iff_eq, bne_iff_ne] at h
    omega

/-- The year of the day that lies `n` days after 0001-01-01. The mean length of a year gives it, or
a neighbour. -/
def yearOfDay (n : Int) : Int :=
  let guess := n * 400 / 146097 + 1
  if n < daysBeforeYear guess then guess - 1
  else if daysBeforeYear (guess + 1) ≤ n then guess + 1
  else guess

theorem daysBeforeYear_yearOfDay_le (n : Int) : daysBeforeYear (yearOfDay n) ≤ n := by
  unfold yearOfDay
  dsimp only
  split
  · unfold daysBeforeYear
    dsimp only
    omega
  · split <;> omega

theorem lt_daysBeforeYear_yearOfDay (n : Int) : n < daysBeforeYear (yearOfDay n + 1) := by
  unfold yearOfDay
  dsimp only
  split
  · simpa using by assumption
  · split
    · unfold daysBeforeYear
      dsimp only
      omega
    · omega

/-- The month and the day of the month of a day of a year, both counted from the given ones. -/
def monthAndDay (month : Nat) : List Nat → Nat → Nat × Nat
  | [], n => (month, n + 1)
  | length :: lengths, n =>
    if n < length then (month, n + 1) else monthAndDay (month + 1) lengths (n - length)

/-- The days from 0001-01-01 to 1970-01-01. -/
def epoch : Int := 719162

namespace Date

/-- The dates that exist. -/
def Exists (date : Date) : Prop :=
  1 ≤ date.month ∧ date.month ≤ 12 ∧ 1 ≤ date.day ∧ date.day ≤ daysInMonth date.year date.month

instance (date : Date) : Decidable date.Exists :=
  inferInstanceAs (Decidable (_ ∧ _ ∧ _ ∧ _))

/-- The days of some months. -/
def totalDays (lengths : List Nat) : Nat := lengths.foldr (fun days rest => days + rest) 0

/-- The days from 1970-01-01 to a date. -/
def toDays (date : Date) : Int :=
  daysBeforeYear date.year +
    totalDays ((monthLengths (isLeapYear date.year)).take (date.month - 1)) + (date.day - 1) - epoch

/-- The date that lies `n` days after 1970-01-01. -/
def ofDays (n : Int) : Date :=
  let day := n + epoch
  let year := yearOfDay day
  let (month, dayOfMonth) :=
    monthAndDay 1 (monthLengths (isLeapYear year)) (day - daysBeforeYear year).toNat
  ⟨year, month, dayOfMonth⟩

/-- The date some months later or earlier, on the same day of the month or on its last one. -/
def addMonths (date : Date) (months : Int) : Date :=
  let total := date.year * 12 + (date.month - 1) + months
  let year := total / 12
  let month := (total % 12).toNat + 1
  ⟨year, month, min date.day (daysInMonth year month)⟩

end Date

end NetTimeline.Calendar
