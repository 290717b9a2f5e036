import NetTimeline.Log.Line
import NetTimeline.Proofs.Calendar.DateTime
import NetTimeline.Proofs.Event.Start
import NetTimeline.Proofs.Number.Range

/-!
# Starts at a whole millisecond

The thousandth part of a whole number is no binary64 value in general, so a start at a whole
millisecond does not keep its seconds exactly. Below `2 ^ 33` seconds the values are spaced by a
`2 ^ 20`-th of a second, so the quotient is off by half of that, which is a little less than half a
microsecond; the product of the fraction with a million adds next to nothing. The last rounding, to
a whole number of microseconds, takes both errors away. As it is done on sizes, a time before 1970
is as exact as one behind it.

Principal results:

* `microsOfMillis_whole` — a whole number of milliseconds is a thousand times as many microseconds;
* `NetworkEvent.startMoment_whole` — the moment of a start at a whole millisecond is exact;
* `NetworkEvent.startMoment_exact` — its date and time are those so many milliseconds after
  1970-01-01T00:00:00, convert back to this number, and belong to no other.
-/

set_option autoImplicit false

namespace NetTimeline

open Calendar (Date DateTime Moment microsPerSecond)

/-! ## Seconds -/

/-- The binary places of the spacing of the values from `2 ^ 32` to `2 ^ 33`. -/
def secondsPlaces : Nat := 1054

/-- That spacing, in units. -/
def secondsSpacing : Nat := 2 ^ secondsPlaces

theorem secondsSpacing_pos : 0 < secondsSpacing := Nat.two_pow_pos secondsPlaces

theorem unitsPerOne_eq_spacing : unitsPerOne = 2 ^ 20 * secondsSpacing := by
  have hplaces : unitPlaces = 20 + secondsPlaces := rfl
  rw [unitsPerOne_eq_pow, hplaces, Nat.pow_add, secondsSpacing]

theorem spacing_le_secondsSpacing {u : Nat} (h : u < 2 ^ 53 * secondsSpacing) :
    spacing u ≤ secondsSpacing := by
  unfold secondsSpacing at *
  exact Nat.le_of_dvd (Nat.two_pow_pos secondsPlaces) (spacing_dvd_pow h)

section Seconds

variable {n rest r : Nat}

/-- The seconds of a whole number of milliseconds are off by half a spacing at most. -/
theorem roundToGrid_millis_near (h : n < 1000 * 2 ^ 33) :
    n * unitsPerOne ≤ 1000 * roundToGrid (n * unitsPerOne) 1000 + 500 * secondsSpacing ∧
      1000 * roundToGrid (n * unitsPerOne) 1000 ≤ n * unitsPerOne + 500 * secondsSpacing := by
  have hpos : 0 < unitsPerOne := unitsPerOne_pos
  have hseconds : n * unitsPerOne / 1000 < 2 ^ 53 * secondsSpacing := by
    apply Nat.div_lt_of_lt_mul
    calc n * unitsPerOne < 1000 * 2 ^ 33 * unitsPerOne := Nat.mul_lt_mul_of_pos_right h hpos
      _ = 1000 * (2 ^ 53 * secondsSpacing) := by rw [unitsPerOne_eq_spacing]; ring
  have hspacing : spacing (n * unitsPerOne / 1000) ≤ secondsSpacing :=
    spacing_le_secondsSpacing hseconds
  obtain ⟨hlower, hupper⟩ := roundToGrid_error (n * unitsPerOne) 1000 (by decide)
  omega

/-- The whole seconds are not rounded away, and not rounded up. -/
theorem roundToGrid_millis_div (h : n < 1000 * 2 ^ 33) :
    roundToGrid (n * unitsPerOne) 1000 / unitsPerOne = n / 1000 := by
  obtain ⟨-, habove⟩ := roundToGrid_millis_near h
  have hunit := unitsPerOne_eq_spacing
  have hpos : 0 < unitsPerOne := unitsPerOne_pos
  apply Nat.div_eq_of_lt_le
  · refine le_roundToGrid (by decide) (onGrid_mul_unitsPerOne (by omega)) ?_
    rw [Nat.mul_right_comm]
    exact Nat.mul_le_mul_right unitsPerOne (Nat.div_mul_le_self n 1000)
  · -- the next second is a millisecond away at least
    have hnext : (n + 1) * unitsPerOne ≤ (n / 1000 + 1) * 1000 * unitsPerOne :=
      Nat.mul_le_mul_right unitsPerOne (by omega)
    rw [Nat.succ_mul, Nat.mul_right_comm] at hnext
    omega

/-- A fraction of a second that is off by half a spacing at most has all its milliseconds. -/
theorem microsOfFraction_near (hr : r < 1000)
    (hbelow : r * unitsPerOne ≤ 1000 * rest + 500 * secondsSpacing)
    (habove : 1000 * rest ≤ r * unitsPerOne + 500 * secondsSpacing) :
    microsOfFraction rest = 1000 * r := by
  have hunit := unitsPerOne_eq_spacing
  have hpos := secondsSpacing_pos
  have hfraction : r * unitsPerOne ≤ 999 * unitsPerOne :=
    Nat.mul_le_mul_right unitsPerOne (Nat.le_of_lt_succ hr)
  have hspacing : spacing (rest * microsPerSecond / 1) ≤ secondsSpacing := by
    apply spacing_le_secondsSpacing
    rw [Nat.div_one, microsPerSecond]
    omega
  obtain ⟨hlower, hupper⟩ := roundToGrid_error (rest * microsPerSecond) 1 Nat.one_pos
  have hmillis : 1000 * r * unitsPerOne = 1000 * (r * unitsPerOne) := Nat.mul_assoc _ _ _
  -- half a microsecond is 524288 spacings, and the two errors are 500000 and a half at most
  unfold microsOfFraction
  simp only [microsPerSecond] at *
  apply roundHalfEven_eq unitsPerOne_pos
  · omega
  · omega

/-- **A whole number of milliseconds is a thousand times as many microseconds.** -/
theorem microsOfMillis_whole (h : n < 1000 * 2 ^ 33) :
    microsOfMillis (n * unitsPerOne) = 1000 * n := by
  obtain ⟨hbelow, habove⟩ := roundToGrid_millis_near h
  have hwhole := roundToGrid_millis_div h
  have hsplit := Nat.div_add_mod (roundToGrid (n * unitsPerOne) 1000) unitsPerOne
  have hmillis : n * unitsPerOne = 1000 * (unitsPerOne * (n / 1000)) + n % 1000 * unitsPerOne := by
    conv => lhs; rw [← Nat.div_add_mod n 1000]
    ring
  rw [hwhole] at hsplit
  have hfraction : microsOfFraction (roundToGrid (n * unitsPerOne) 1000 % unitsPerOne) =
      1000 * (n % 1000) :=
    microsOfFraction_near (Nat.mod_lt n (by decide)) (by omega) (by omega)
  rw [microsOfMillis, microsOfSize, hwhole, hfraction, microsPerSecond]
  omega

/-- One millisecond past the bound a microsecond is lost. -/
example : microsOfMillis ((1000 * 2 ^ 33 + 1) * unitsPerOne) + 1 = 1000 * (1000 * 2 ^ 33 + 1) := by
  decide +kernel

end Seconds

/-! ## Whole values -/

section Whole

variable {x : Finite64} {m : Int}

theorem Finite64.natAbs_units (x : Finite64) : x.units.natAbs = x.magnitude.units := by
  unfold units
  split <;> omega

theorem Finite64.magnitude_of_whole (h : x.units = m * unitsPerOne) :
    x.magnitude.units = m.natAbs * unitsPerOne := by
  rw [← natAbs_units, h, Int.natAbs_mul, Int.natAbs_natCast]

theorem Finite64.signed_mul (x : Finite64) (c k : Nat) : x.signed (c * k) = c * x.signed k := by
  unfold signed
  split
  · rw [Nat.cast_mul, Int.mul_neg]
  · rw [Nat.cast_mul]

/-- The size of a whole value, with its sign, is the value. -/
theorem Finite64.signed_natAbs (h : x.units = m * unitsPerOne) : x.signed m.natAbs = m := by
  have hunits : unitsPerOne * x.signed m.natAbs = unitsPerOne * m := by
    calc unitsPerOne * x.signed m.natAbs = x.signed x.magnitude.units := by
          rw [magnitude_of_whole h, Nat.mul_comm, signed_mul]
      _ = x.units := rfl
      _ = unitsPerOne * m := by rw [h, Int.mul_comm]
  exact Int.eq_of_mul_eq_mul_left (Int.natCast_ne_zero.2 unitsPerOne_pos.ne') hunits

end Whole

/-! ## Starts -/

/-- Within the bound a whole millisecond lies in the years 1697 to 2242. -/
theorem Calendar.Moment.year_of_whole {moment : Moment} {m : Int} (hm : m.natAbs < 1000 * 2 ^ 33)
    (h : moment.micros = 1000 * m) : 1697 ≤ moment.date.year ∧ moment.date.year ≤ 2242 := by
  have hearliest : (Date.ofDays (-99421)).year = 1697 := by decide
  have hlatest : (Date.ofDays 99420).year = 2242 := by decide
  have hfrom : Date.ofDays (-99421) ≤ moment.date := by
    rw [Moment.date, Date.ofDays_le_iff, Moment.dayNumber, h]
    unfold Calendar.microsPerDay microsPerSecond
    omega
  have hto : moment.date ≤ Date.ofDays 99420 := by
    rw [Moment.date, Date.ofDays_le_iff, Moment.dayNumber, h]
    unfold Calendar.microsPerDay microsPerSecond
    omega
  rw [Date.le_def] at hfrom hto
  omega

namespace NetworkEvent

/-- The event starts so many milliseconds after 1970-01-01T00:00:00, or before if they are
negative. -/
def StartsAt (event : NetworkEvent) (millis : Int) : Prop :=
  event.startTime.units = millis * unitsPerOne

instance (event : NetworkEvent) (millis : Int) : Decidable (event.StartsAt millis) :=
  inferInstanceAs (Decidable (_ = _))

variable {event : NetworkEvent} {m : Int}

/-- **The moment of a start at a whole millisecond** is there, and is that millisecond. -/
theorem startMoment_whole (hm : m.natAbs < 1000 * 2 ^ 33) (h : event.StartsAt m) :
    ∃ moment, event.startMoment = .ok moment ∧ moment.micros = 1000 * m := by
  have hfirst : Calendar.firstMicros ≤ 1000 * m := by
    unfold Calendar.firstMicros Calendar.microsPerDay microsPerSecond
    omega
  have hpast : 1000 * m < Calendar.pastMicros := by
    unfold Calendar.pastMicros Calendar.microsPerDay microsPerSecond
    omega
  refine ⟨⟨1000 * m, hfirst, hpast⟩, startMoment_eq_ok.2 ?_, rfl⟩
  rw [Finite64.magnitude_of_whole h, microsOfMillis_whole hm, Finite64.signed_mul,
    Finite64.signed_natAbs h]
  rfl

/-- **Starts at a whole millisecond are exact.** Within `2 ^ 33` seconds a whole number of
milliseconds is a binary64 value. Every event that starts at it does so at a moment, whose date and
time are the ones so many milliseconds after 1970-01-01T00:00:00; they convert back to the same
number, and another number has others. -/
theorem startMoment_exact (hm : m.natAbs < 1000 * 2 ^ 33) :
    (∃ start, Binary64.ofInt m = .finite start ∧ start.units = m * unitsPerOne) ∧
      ∀ event : NetworkEvent, event.StartsAt m → ∃ moment, event.startMoment = .ok moment ∧
        (∀ t : DateTime, t.LiesAt m ↔ t = moment.dateTime) ∧
        moment.dateTime.toMicros = 1000 * m ∧
        (1697 ≤ moment.dateTime.date.year ∧ moment.dateTime.date.year ≤ 2242) ∧
        ∀ (other : NetworkEvent) (n : Int) (later : Moment), n.natAbs < 1000 * 2 ^ 33 →
          other.StartsAt n → other.startMoment = .ok later →
          (moment.dateTime = later.dateTime ↔ m = n) := by
  constructor
  · exact Binary64.exists_units_ofInt (by omega)
  · intro event h
    obtain ⟨moment, hmoment, hmicros⟩ := startMoment_whole hm h
    have hback : moment.dateTime.toMicros = 1000 * m := moment.toMicros_dateTime.trans hmicros
    refine ⟨moment, hmoment, Moment.liesAt_iff_eq hmicros, hback,
      Moment.year_of_whole hm hmicros, ?_⟩
    intro other n later hn hother hlater
    obtain ⟨found, hfound, hfoundMicros⟩ := startMoment_whole hn hother
    obtain rfl : later = found := Except.ok.inj (hlater.symm.trans hfound)
    rw [Moment.dateTime_inj, hmicros, hfoundMicros]
    omega

/-- The last millisecond of February in 1900, which was no leap year, and the first of March. -/
def eventsAroundMarch1900 : List NetworkEvent :=
  ["\x7b\"startTime\": -2203891200001, \"endTime\": 0\x7d",
    "\x7b\"startTime\": -2203891200000, \"endTime\": 0\x7d"].filterMap
    fun line => (LineReading.ofChars line.toList).event?

/-- They are a millisecond apart, and there is no day between them. -/
theorem startMoment_exact_march1900 :
    ∃ a b last first, eventsAroundMarch1900 = [a, b] ∧
      a.StartsAt (-2203891200001) ∧ b.StartsAt (-2203891200000) ∧
      a.startMoment = .ok last ∧ b.startMoment = .ok first ∧
      last.dateTime = ⟨⟨1900, 2, 28⟩, 23, 59, 59, 999000⟩ ∧
      first.dateTime = ⟨⟨1900, 3, 1⟩, 0, 0, 0, 0⟩ ∧
      last.dateTime.LiesAt (-2203891200001) ∧ first.dateTime.LiesAt (-2203891200000) ∧
      last.dateTime.toMicros = 1000 * (-2203891200001) ∧ last.dateTime ≠ first.dateTime := by
  have hlength : eventsAroundMarch1900.length = 2 := by decide +kernel
  have hstarts : eventsAroundMarch1900.map (fun e => e.startTime.units) =
      [(-2203891200001 : Int) * unitsPerOne, (-2203891200000 : Int) * unitsPerOne] := by
    decide +kernel
  have hfields : eventsAroundMarch1900.map (fun e => e.startMoment.toOption.map Moment.dateTime) =
      [some ⟨⟨1900, 2, 28⟩, 23, 59, 59, 999000⟩, some ⟨⟨1900, 3, 1⟩, 0, 0, 0, 0⟩] := by
    decide +kernel
  obtain ⟨a, b, hevents⟩ := List.length_eq_two.1 hlength
  rw [hevents] at hstarts hfields
  simp only [List.map_cons, List.map_nil, List.cons.injEq, and_true] at hstarts hfields
  obtain ⟨ha, hb⟩ := hstarts
  obtain ⟨-, hexactA⟩ := startMoment_exact (m := -2203891200001) (by decide)
  obtain ⟨-, hexactB⟩ := startMoment_exact (m := -2203891200000) (by decide)
  obtain ⟨last, hlast, hlastAt, hback, -, hdistinct⟩ := hexactA a ha
  obtain ⟨first, hfirst, hfirstAt, -⟩ := hexactB b hb
  rw [hlast, hfirst] at hfields
  obtain ⟨hlastFields, hfirstFields⟩ := hfields
  refine ⟨a, b, last, first, hevents, ha, hb, hlast, hfirst, Option.some.inj hlastFields,
    Option.some.inj hfirstFields, (hlastAt _).2 rfl, (hfirstAt _).2 rfl, hback, ?_⟩
  rw [ne_eq, hdistinct b (-2203891200000) first (by decide) hb hfirst]
  decide

end NetworkEvent

end NetTimeline
