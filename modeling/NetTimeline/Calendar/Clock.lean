import NetTimeline.Calendar.Moment
import NetTimeline.Text.Part

/-!
# The time of day

A time of day is written as an hour with minutes, perhaps seconds, and perhaps a fraction of them,
with colons in between. It may be marked as one of the morning or of the afternoon. An hour from 1
to 12 is then one of that half of the day. Any other hour is what it is without the mark, if there
are minutes and no seconds, and wrong otherwise. An hour alone has to be marked.

This stands for the formats in which the library dateparser reads a time of day.

Main statement: `readClock?_lt` — a time of day is less than a day.
-/

set_option autoImplicit false

namespace NetTimeline.Calendar

/-- A half of the day. -/
inductive Half where
  | morning
  | afternoon
  deriving DecidableEq, Repr

/-- The half of the day that a word marks. -/
def Half.ofWord? (word : List Char) : Option Half :=
  if word = "am".toList then some .morning
  else if word = "pm".toList then some .afternoon
  else none

/-- The hour of the day, of an hour on the dial. -/
def Half.hourOfDay (half : Half) (hour : Nat) : Nat :=
  match half with
  | .morning => hour % 12
  | .afternoon => hour % 12 + 12

/-- A number of one or two digits below a limit. -/
def readBelow? (limit : Nat) (cs : List Char) : Option Nat :=
  if cs ≠ [] ∧ cs.length ≤ 2 ∧ cs.all Char.isDigit ∧ digitsValue cs < limit then
    some (digitsValue cs)
  else none

/-- The hour of the day; `dial` tells that a mark goes with the hours from 1 to 12 only. -/
def readHour? (dial : Bool) (half : Option Half) (cs : List Char) : Option Nat :=
  (readBelow? 24 cs).bind fun hour =>
    match half with
    | none => some hour
    | some half =>
      if 1 ≤ hour ∧ hour ≤ 12 then some (half.hourOfDay hour)
      else if dial then none
      else some hour

/-- A fraction of a second in microseconds: one to six digits. -/
def readFraction? (cs : List Char) : Option Nat :=
  if cs ≠ [] ∧ cs.length ≤ 6 ∧ cs.all Char.isDigit then
    some (digitsValue (cs ++ List.replicate (6 - cs.length) '0'))
  else none

theorem readBelow?_lt {limit n : Nat} {cs : List Char} (h : readBelow? limit cs = some n) :
    n < limit := by
  unfold readBelow? at h
  split at h
  · rename_i hcs
    obtain ⟨-, -, -, hlt⟩ := hcs
    simp_all
  · contradiction

theorem readHour?_lt {dial : Bool} {half : Option Half} {cs : List Char} {hour : Nat}
    (h : readHour? dial half cs = some hour) : hour < 24 := by
  unfold readHour? at h
  obtain ⟨given, hgiven, h⟩ := Option.bind_eq_some_iff.1 h
  have hlt := readBelow?_lt hgiven
  cases half with
  | none => simp_all
  | some half =>
    cases half <;> simp only [Half.hourOfDay] at h <;> split at h
    · simp only [Option.some.injEq] at h
      omega
    · split at h <;> simp_all
    · simp only [Option.some.injEq] at h
      omega
    · split at h <;> simp_all

theorem readFraction?_lt {cs : List Char} {n : Nat} (h : readFraction? cs = some n) :
    n < microsPerSecond := by
  unfold readFraction? at h
  split at h
  · rename_i hcs
    obtain ⟨-, hlength, hdigits⟩ := hcs
    simp only [Option.some.injEq] at h
    have hall : ∀ c ∈ cs ++ List.replicate (6 - cs.length) '0', c.isDigit = true := by
      intro c hc
      rcases List.mem_append.1 hc with hc | hc
      · exact List.all_eq_true.1 hdigits c hc
      · simp [List.eq_of_mem_replicate hc]
    have hlt := digitsValue_lt hall
    have hsix : (cs ++ List.replicate (6 - cs.length) '0').length = 6 := by simp; omega
    rw [hsix, h] at hlt
    exact hlt
  · contradiction

/-- The microseconds of a fraction that may be missing. -/
def readMicros? : Option (List Char) → Option Nat
  | none => some 0
  | some cs => readFraction? cs

theorem readMicros?_lt {fraction : Option (List Char)} {n : Nat}
    (h : readMicros? fraction = some n) : n < microsPerSecond := by
  cases fraction with
  | none =>
    simp only [readMicros?, Option.some.injEq] at h
    exact h ▸ by decide
  | some cs => exact readFraction?_lt h

/-- The microseconds since midnight. -/
def clockMicros (hour minute second micros : Nat) : Nat :=
  ((hour * 60 + minute) * 60 + second) * microsPerSecond + micros

/-- A time of day in microseconds since midnight: the number with its colons, the fraction behind it
and the half of the day that it is marked with. -/
def readClock? (number : List Char) (fraction : Option (List Char)) (half : Option Half) :
    Option Nat :=
  match Text.split ':' number, fraction with
  | [hour], none => do
    let hour ← half.bind fun half => readHour? true (some half) hour
    return clockMicros hour 0 0 0
  | [hour, minute], none => do
    return clockMicros (← readHour? false half hour) (← readBelow? 60 minute) 0 0
  | [hour, minute, second], fraction => do
    return clockMicros (← readHour? true half hour) (← readBelow? 60 minute)
      (← readBelow? 60 second) (← readMicros? fraction)
  | _, _ => none

theorem clockMicros_lt {hour minute second micros : Nat} (hhour : hour < 24)
    (hminute : minute < 60) (hsecond : second < 60) (hmicros : micros < microsPerSecond) :
    clockMicros hour minute second micros < microsPerDay := by
  unfold clockMicros microsPerDay microsPerSecond at *
  omega

theorem readClock?_lt {number : List Char} {fraction : Option (List Char)} {half : Option Half}
    {time : Nat} (h : readClock? number fraction half = some time) : time < microsPerDay := by
  have hzero : 0 < microsPerSecond := by decide
  unfold readClock? at h
  split at h
  · obtain ⟨hour, hhour, h⟩ := Option.bind_eq_some_iff.1 h
    obtain ⟨half, -, hhour⟩ := Option.bind_eq_some_iff.1 hhour
    simp only [Option.pure_def, Option.some.injEq] at h
    exact h ▸ clockMicros_lt (readHour?_lt hhour) (by decide) (by decide) hzero
  · obtain ⟨hour, hhour, h⟩ := Option.bind_eq_some_iff.1 h
    obtain ⟨minute, hminute, h⟩ := Option.bind_eq_some_iff.1 h
    simp only [Option.pure_def, Option.some.injEq] at h
    exact h ▸ clockMicros_lt (readHour?_lt hhour) (readBelow?_lt hminute) (by decide) hzero
  · obtain ⟨hour, hhour, h⟩ := Option.bind_eq_some_iff.1 h
    obtain ⟨minute, hminute, h⟩ := Option.bind_eq_some_iff.1 h
    obtain ⟨second, hsecond, h⟩ := Option.bind_eq_some_iff.1 h
    obtain ⟨micros, hmicros, h⟩ := Option.bind_eq_some_iff.1 h
    simp only [Option.pure_def, Option.some.injEq] at h
    exact h ▸ clockMicros_lt (readHour?_lt hhour) (readBelow?_lt hminute) (readBelow?_lt hsecond)
      (readMicros?_lt hmicros)
  · contradiction

end NetTimeline.Calendar
