import NetTimeline.Calendar.Clock
import NetTimeline.Calendar.Piece

/-!
# Dates of the calendar

The parts of a date are read from the left to the right. A number is the month, the day or the year:
the first of these that it can be and that is not there yet. A year has two digits or four, and one
of four takes the place of one of two. The name of a month makes the day of a month that was given
as a number. With the parts there may stand a time of day; midnight if there is none. A part that is
missing is that of the present.

This stands for the absolute parser of the library dateparser, in the language English.

Main statement: `readDateTime?_exists` — a date that is read is one of the calendar.
-/

set_option autoImplicit false

namespace NetTimeline.Calendar

/-- The parts of a date that have been read. A year of two digits is kept besides one of four. -/
structure DateParts where
  month : Option Nat
  named : Bool
  day : Option Nat
  shortYear : Option Nat
  fullYear : Option Nat
  deriving DecidableEq, Repr

/-! ## Words -/

/-- The names of the months, and what they may be cut to. -/
def monthNames : List (List Char × Nat) :=
  [("january", 1), ("february", 2), ("march", 3), ("april", 4), ("may", 5), ("june", 6),
    ("july", 7), ("august", 8), ("september", 9), ("october", 10), ("november", 11),
    ("december", 12), ("jan", 1), ("feb", 2), ("mar", 3), ("apr", 4), ("jun", 6), ("jul", 7),
    ("aug", 8), ("sep", 9), ("sept", 9), ("oct", 10), ("nov", 11), ("dec", 12)].map
    fun (name, month) => (name.toList, month)

/-- Whether a word says nothing in a date. -/
def isDateFiller (word : List Char) : Bool :=
  ["t".toList, "year".toList, "years".toList, "hour".toList, "hours".toList, "minute".toList,
    "minutes".toList].contains word

/-! ## The time of day -/

def isMark : Piece → Bool
  | .mark _ => true
  | _ => false

/-- A half of the day behind some marks, and what follows it. -/
def spanHalf? (pieces : List Piece) : Option (Half × List Piece) :=
  match pieces.dropWhile isMark with
  | .word word :: rest => (Half.ofWord? word).map fun half => (half, rest)
  | _ => none

/-- A fraction of a second behind a number, and what follows it. Digits past the sixth do not
count. -/
def spanMicros : List Piece → Option (List Char) × List Piece
  | .mark '.' :: .number digits :: rest =>
    let counted := (digits.takeWhile Char.isDigit).take 6
    if counted.isEmpty then (none, .mark '.' :: .number digits :: rest) else (some counted, rest)
  | rest => (none, rest)

/-- The first number that has a colon or is marked as of a half of the day is the time of day; it
has to be right. The other pieces stay. -/
def takeClock? : List Piece → Option (Option Nat × List Piece)
  | [] => some (none, [])
  | .number number :: rest =>
    let colon := number.contains ':'
    let (fraction, behind) := if colon then spanMicros rest else (none, rest)
    match spanHalf? behind with
    | some (half, behind) =>
      (readClock? number fraction (some half)).map fun time => (some time, behind)
    | none =>
      if colon then (readClock? number fraction none).map fun time => (some time, behind)
      else (takeClock? rest).map fun (time, others) => (time, .number number :: others)
  | piece :: rest => (takeClock? rest).map fun (time, others) => (time, piece :: others)

/-- The time of day that is taken is right, whatever stands around it. -/
theorem takeClock?_lt {pieces others : List Piece} {time : Nat}
    (h : takeClock? pieces = some (some time, others)) : time < microsPerDay := by
  induction pieces generalizing others with
  | nil => simp [takeClock?] at h
  | cons piece rest ih =>
    have hrest {kept : Option Nat × List Piece} (hkept : takeClock? rest = some kept)
        (htime : kept.1 = some time) : time < microsPerDay := by
      rw [← Prod.eta kept, htime] at hkept
      exact ih hkept
    cases piece with
    | number number =>
      simp only [takeClock?] at h
      split at h
      · obtain ⟨clock, hclock, heq⟩ := Option.map_eq_some_iff.1 h
        cases heq
        exact readClock?_lt hclock
      · split at h
        · obtain ⟨clock, hclock, heq⟩ := Option.map_eq_some_iff.1 h
          cases heq
          exact readClock?_lt hclock
        · obtain ⟨kept, hkept, heq⟩ := Option.map_eq_some_iff.1 h
          exact hrest hkept (congrArg Prod.fst heq)
    | mark _ | word _ =>
      simp only [takeClock?] at h
      obtain ⟨kept, hkept, heq⟩ := Option.map_eq_some_iff.1 h
      exact hrest hkept (congrArg Prod.fst heq)

/-! ## The parts -/

namespace DateParts

def empty : DateParts := ⟨none, false, none, none, none⟩

/-- The parts with a number, as the first part that it can be. -/
def takeNumber? (parts : DateParts) (digits : List Char) : Option DateParts :=
  let n := digitsValue digits
  let short := digits.length ≤ 2
  if digits.isEmpty || !digits.all Char.isDigit then none
  else if parts.month.isNone ∧ short ∧ 1 ≤ n ∧ n ≤ 12 then some { parts with month := some n }
  else if parts.day.isNone ∧ short ∧ 1 ≤ n ∧ n ≤ 31 then some { parts with day := some n }
  else if parts.fullYear.isSome then none
  else if digits.length = 2 ∧ parts.shortYear.isNone then some { parts with shortYear := some n }
  else if digits.length = 4 ∧ 1 ≤ n then some { parts with fullYear := some n }
  else none

/-- The parts with the name of a month. -/
def takeMonth? (parts : DateParts) (month : Nat) : Option DateParts :=
  if parts.named then none
  else some { parts with month := some month, named := true, day := parts.month.or parts.day }

/-- The parts with one more piece. -/
def take? (parts : DateParts) : Piece → Option DateParts
  | .mark _ => some parts
  | .number digits => parts.takeNumber? digits
  | .word word =>
    if isDateFiller word then some parts else (monthNames.lookup word).bind parts.takeMonth?

/-- The year of two digits: 69 to 99 are of the twentieth century. -/
def centuryYear (n : Nat) : Nat := if n < 69 then 2000 + n else 1900 + n

/-- The date of the parts. A year of two digits that has given way to one of four is the day or the
month, if that is missing; a zero among them is that of the present. -/
def date (parts : DateParts) (present : Date) : Date :=
  let spare := if parts.fullYear.isSome then parts.shortYear else none
  let year : Int := match parts.fullYear, parts.shortYear with
    | some year, _ => year
    | none, some year => centuryYear year
    | none, none => present.year
  let month := match parts.month.or spare with
    | none | some 0 => present.month
    | some month => month
  let day := match parts.day.or spare with
    | none => min present.day (daysInMonth year month)
    | some 0 => present.day
    | some day => day
  ⟨year, month, day⟩

end DateParts

/-- The date and the time of day that pieces make up. -/
def readDateTime? (present : Date) (pieces : List Piece) : Option (Date × Nat) := do
  let (time, others) ← takeClock? pieces
  let parts ← others.foldlM DateParts.take? .empty
  let date := parts.date present
  if (parts = .empty ∧ time.isNone) ∨ ¬ date.Exists then none
  else return (date, time.getD 0)

/-- **A date that is read is one of the calendar**, with a time of its day. -/
theorem readDateTime?_exists {present : Date} {pieces : List Piece} {date : Date} {time : Nat}
    (h : readDateTime? present pieces = some (date, time)) :
    date.Exists ∧ time < microsPerDay := by
  unfold readDateTime? at h
  obtain ⟨⟨clock?, others⟩, hclock, h⟩ := Option.bind_eq_some_iff.1 h
  obtain ⟨parts, -, h⟩ := Option.bind_eq_some_iff.1 h
  dsimp only at h
  split at h
  · cases h
  · rename_i hdate
    cases h
    refine ⟨Decidable.not_not.1 fun hnot => hdate (.inr hnot), ?_⟩
    cases clock? with
    | none => decide
    | some clock => exact takeClock?_lt hclock

/-- What an expression says on 10 June 2025. -/
private def onTenthOfJune (s : String) : Option (Date × Nat) :=
  readDateTime? ⟨2025, 6, 10⟩ (Piece.read s.toList)

example : onTenthOfJune "06/08/2025" = some (⟨2025, 6, 8⟩, 0) := by decide +kernel
example : onTenthOfJune "2025-13-08" = some (⟨2025, 8, 13⟩, 0) := by decide +kernel

end NetTimeline.Calendar
