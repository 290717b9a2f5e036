import NetTimeline.Proofs.Calendar.Succession

/-!
# Date and time by their fields

What is written of a moment are its fields: year, month and day, and the hour, the minute, the
second and the microsecond of that day. They can be converted back to the microseconds that the
moment counts. `DateTime.LiesAt` says apart from these conversions what it is to lie so many
milliseconds after 1970-01-01T00:00:00: as many whole days as they make are gone through one after
the other, and the clock shows the rest.

Principal results:

* `DateTime.toMicros_inj` — fields that exist and convert to the same number are the same;
* `DateTime.liesAt_iff` — fields lie so many milliseconds after the start exactly if they exist and
  convert to so many;
* `Moment.toMicros_dateTime`, `Moment.dateTime_inj` — the fields of a moment convert back to its
  microseconds, and moments have fields of their own.
-/

set_option autoImplicit false

namespace NetTimeline.Calendar

/-- A date and a time of day, by their fields. -/
structure DateTime where
  date : Date
  hour : Nat
  minute : Nat
  second : Nat
  microsecond : Nat
  deriving DecidableEq

namespace DateTime

/-- The date exists, and so does the time of day. -/
def Exists (t : DateTime) : Prop :=
  t.date.Exists ∧ t.hour < 24 ∧ t.minute < 60 ∧ t.second < 60 ∧ t.microsecond < microsPerSecond

instance (t : DateTime) : Decidable t.Exists :=
  inferInstanceAs (Decidable (_ ∧ _ ∧ _ ∧ _ ∧ _))

/-- The microseconds since midnight. -/
def clock (t : DateTime) : Nat :=
  ((t.hour * 60 + t.minute) * 60 + t.second) * microsPerSecond + t.microsecond

/-- The microseconds since 1970-01-01T00:00:00. -/
def toMicros (t : DateTime) : Int := t.date.toDays * microsPerDay + t.clock

theorem clock_lt {t : DateTime} (h : t.Exists) : t.clock < microsPerDay := by
  obtain ⟨-, hhour, hminute, hsecond, hmicrosecond⟩ := h
  simp only [clock, microsPerDay, microsPerSecond] at *
  omega

/-- The clock shows each time of day in one way. -/
theorem eq_of_clock {s t : DateTime} (hs : s.Exists) (ht : t.Exists) (hdate : s.date = t.date)
    (hclock : s.clock = t.clock) : s = t := by
  obtain ⟨date, hour, minute, second, microsecond⟩ := s
  obtain ⟨date', hour', minute', second', microsecond'⟩ := t
  obtain ⟨-, -, hminute, hsecond, hmicrosecond⟩ := hs
  obtain ⟨-, -, hminute', hsecond', hmicrosecond'⟩ := ht
  simp only [clock, microsPerSecond, mk.injEq] at *
  refine ⟨hdate, ?_⟩
  omega

/-- **Fields that exist and convert to the same number are the same.** -/
theorem toMicros_inj {s t : DateTime} (hs : s.Exists) (ht : t.Exists) :
    s.toMicros = t.toMicros ↔ s = t := by
  constructor
  · intro h
    have hsclock := clock_lt hs
    have htclock := clock_lt ht
    unfold toMicros microsPerDay microsPerSecond at *
    have hdays : s.date.toDays = t.date.toDays := by omega
    have hclock : s.clock = t.clock := by omega
    exact eq_of_clock hs ht ((Date.toDays_inj hs.1 ht.1).1 hdays) hclock
  · exact congrArg toMicros

/-! ## Milliseconds after the start -/

def millisPerDay : Nat := 86400 * 1000

/-- The fields are those of the moment so many milliseconds after 1970-01-01T00:00:00: the date lies
as many days after the first one as the milliseconds make whole days, and the clock shows the rest
of them. -/
structure LiesAt (t : DateTime) (millis : Int) : Prop where
  fields : t.Exists
  days : Date.IsAfter (millis / millisPerDay) ⟨1970, 1, 1⟩ t.date
  rest : t.clock = millis % millisPerDay * 1000

/-- **Fields lie so many milliseconds after the start exactly if they convert to so many.** -/
theorem liesAt_iff {t : DateTime} {millis : Int} :
    t.LiesAt millis ↔ t.Exists ∧ t.toMicros = 1000 * millis := by
  have hstart : (⟨1970, 1, 1⟩ : Date).Exists := by decide
  have hzero : (⟨1970, 1, 1⟩ : Date).toDays = 0 := by decide
  constructor
  · rintro ⟨hexists, hdays, hrest⟩
    rw [Date.isAfter_iff hstart hexists.1, hzero] at hdays
    refine ⟨hexists, ?_⟩
    unfold toMicros
    rw [hdays, hrest]
    unfold microsPerDay microsPerSecond millisPerDay
    omega
  · rintro ⟨hexists, hmicros⟩
    have hclock := clock_lt hexists
    unfold toMicros microsPerDay microsPerSecond at *
    refine ⟨hexists, (Date.isAfter_iff hstart hexists.1).2 ?_, ?_⟩
    · rw [hzero, millisPerDay]
      omega
    · rw [millisPerDay]
      omega

instance (t : DateTime) (millis : Int) : Decidable (t.LiesAt millis) :=
  decidable_of_iff _ liesAt_iff.symm

/-- A leap day of a century. -/
example : LiesAt ⟨⟨2000, 2, 29⟩, 0, 0, 0, 0⟩ 951782400000 := by decide

end DateTime

/-! ## Moments -/

namespace Moment

/-- The fields of a moment. -/
def dateTime (moment : Moment) : DateTime :=
  let seconds := moment.timeOfDay / microsPerSecond
  ⟨moment.date, seconds / 3600, seconds / 60 % 60, seconds % 60, moment.timeOfDay % microsPerSecond⟩

/-- These are the numbers that are written of a moment. -/
theorem isoText_eq (moment : Moment) :
    moment.isoText =
      let t := moment.dateTime
      padded 4 t.date.year.toNat ++ "-" ++ padded 2 t.date.month ++ "-" ++ padded 2 t.date.day ++
        "T" ++ padded 2 t.hour ++ ":" ++ padded 2 t.minute ++ ":" ++ padded 2 t.second ++
        (if t.microsecond = 0 then "" else "." ++ padded 6 t.microsecond) :=
  rfl

theorem timeOfDay_lt (moment : Moment) : moment.timeOfDay < microsPerDay := by
  unfold timeOfDay microsPerDay microsPerSecond
  omega

theorem clock_dateTime (moment : Moment) : moment.dateTime.clock = moment.timeOfDay := by
  simp only [DateTime.clock, dateTime, microsPerSecond]
  omega

theorem exists_dateTime (moment : Moment) : moment.dateTime.Exists := by
  have htime := moment.timeOfDay_lt
  refine ⟨Date.exists_ofDays _, ?_⟩
  simp only [dateTime, microsPerDay, microsPerSecond] at htime ⊢
  omega

/-- **The fields of a moment convert back to its microseconds.** -/
theorem toMicros_dateTime (moment : Moment) : moment.dateTime.toMicros = moment.micros := by
  have hdays : moment.dateTime.date.toDays = moment.dayNumber := Date.toDays_ofDays _
  rw [DateTime.toMicros, hdays, clock_dateTime]
  unfold dayNumber timeOfDay microsPerDay microsPerSecond
  omega

/-- **Moments have fields of their own.** -/
theorem dateTime_inj {a b : Moment} : a.dateTime = b.dateTime ↔ a.micros = b.micros := by
  rw [← DateTime.toMicros_inj a.exists_dateTime b.exists_dateTime, toMicros_dateTime,
    toMicros_dateTime]

/-- Of all fields, those of the moment lie so many milliseconds after the start. -/
theorem liesAt_iff_eq {moment : Moment} {millis : Int} (h : moment.micros = 1000 * millis)
    (t : DateTime) : t.LiesAt millis ↔ t = moment.dateTime := by
  rw [DateTime.liesAt_iff, ← h, ← toMicros_dateTime]
  constructor
  · rintro ⟨hexists, hmicros⟩
    exact (DateTime.toMicros_inj hexists moment.exists_dateTime).1 hmicros
  · rintro rfl
    exact ⟨moment.exists_dateTime, rfl⟩

end Moment

end NetTimeline.Calendar
