import NetTimeline.Event.Window
import NetTimeline.Proofs.Calendar.Order
import NetTimeline.Proofs.Number.Units

/-!
# The moment at which an event starts

A start time in milliseconds becomes a moment in three roundings: the quotient by 1000, the product
of its fraction with a million, and the whole number of microseconds next to that. All three are
done on the size of the time, and the sign comes back at the end. Each of them keeps the order, and
zero, so the way from start times to moments does. The fraction can be rounded up to a whole second,
which the second behind it does not pass.

Principal results:

* `microsOfSize_mono` — more seconds are not fewer microseconds, where the fraction carries too;
* `NetworkEvent.startMoment_eq_ok` — the moment of a start, if it has one, by its size and sign;
* `NetworkEvent.startMoment_mono` — a later start time is not an earlier moment.
-/

set_option autoImplicit false

namespace NetTimeline

open Calendar (Moment MomentError microsPerSecond)

/-! ## Sizes and signs -/

/-- A size with the sign of a value. -/
def Finite64.signed (x : Finite64) (size : Nat) : Int := if x.negative then -(size : Int) else size

/-- What is done to sizes and keeps their order, and zero, keeps the order of values. -/
theorem Finite64.signed_mono {f : Nat → Nat} (hf : Monotone f) (hzero : f 0 = 0) {x y : Finite64}
    (h : x.units ≤ y.units) : x.signed (f x.magnitude.units) ≤ y.signed (f y.magnitude.units) := by
  unfold Finite64.units at h
  unfold Finite64.signed
  cases hx : x.negative with
  | true =>
    cases hy : y.negative with
    | true =>
      simp only [hx, hy, if_true] at h ⊢
      have hsizes : y.magnitude.units ≤ x.magnitude.units := by omega
      have hf := hf hsizes
      omega
    | false =>
      simp only [if_true, Bool.false_eq_true, if_false]
      omega
  | false =>
    cases hy : y.negative with
    | true =>
      -- both are zeros
      simp only [hx, hy, if_true, Bool.false_eq_true, if_false] at h ⊢
      have hxzero : x.magnitude.units = 0 := by omega
      have hyzero : y.magnitude.units = 0 := by omega
      rw [hxzero, hyzero, hzero]
      decide
    | false =>
      simp only [hx, hy, Bool.false_eq_true, if_false] at h ⊢
      exact_mod_cast hf (Int.ofNat_le.1 h)

/-! ## Microseconds of a number of seconds -/

/-- The microseconds of a fraction of a second. -/
def microsOfFraction (rest : Nat) : Nat :=
  roundHalfEven (roundToGrid (rest * microsPerSecond) 1) unitsPerOne

/-- The microseconds of a number of seconds that is not negative. -/
def microsOfSize (size : Nat) : Nat :=
  size / unitsPerOne * microsPerSecond + microsOfFraction (size % unitsPerOne)

theorem microsOfSeconds_eq (seconds : Finite64) :
    Moment.microsOfSeconds seconds = seconds.signed (microsOfSize seconds.magnitude.units) := rfl

theorem microsOfFraction_mono : Monotone microsOfFraction := by
  intro m n h
  have hproduct : roundToGrid (m * microsPerSecond) 1 ≤ roundToGrid (n * microsPerSecond) 1 := by
    apply roundToGrid_mono Nat.one_pos Nat.one_pos
    rw [Nat.mul_one, Nat.mul_one]
    exact Nat.mul_le_mul_right microsPerSecond h
  exact roundHalfEven_mono_left unitsPerOne hproduct

/-- A fraction is not rounded beyond the second. -/
theorem microsOfFraction_le {rest : Nat} (h : rest < unitsPerOne) :
    microsOfFraction rest ≤ microsPerSecond := by
  have hproduct : roundToGrid (rest * microsPerSecond) 1 ≤ microsPerSecond * unitsPerOne := by
    apply roundToGrid_le Nat.one_pos (onGrid_mul_unitsPerOne (by decide))
    rw [Nat.mul_one, Nat.mul_comm]
    exact Nat.mul_le_mul_left microsPerSecond (Nat.le_of_lt h)
  exact roundHalfEven_le_of_le_mul unitsPerOne_pos hproduct

/-- **More seconds are not fewer microseconds.** In one second the fractions are compared; a later
second has all of an earlier one before it. -/
theorem microsOfSize_mono : Monotone microsOfSize := by
  intro m n h
  rcases Nat.lt_or_eq_of_le (Nat.div_le_div_right h : m / unitsPerOne ≤ n / unitsPerOne) with
    hlater | hsame
  · have hfraction : microsOfFraction (m % unitsPerOne) ≤ microsPerSecond :=
      microsOfFraction_le (Nat.mod_lt m unitsPerOne_pos)
    calc microsOfSize m ≤ m / unitsPerOne * microsPerSecond + microsPerSecond :=
          Nat.add_le_add_left hfraction _
      _ = (m / unitsPerOne + 1) * microsPerSecond := (Nat.succ_mul _ _).symm
      _ ≤ n / unitsPerOne * microsPerSecond := Nat.mul_le_mul_right microsPerSecond hlater
      _ ≤ microsOfSize n := Nat.le_add_right _ _
  · have hrest : m % unitsPerOne ≤ n % unitsPerOne := by
      have hm := Nat.div_add_mod m unitsPerOne
      have hn := Nat.div_add_mod n unitsPerOne
      rw [hsame] at hm
      omega
    unfold microsOfSize
    rw [hsame]
    exact Nat.add_le_add_left (microsOfFraction_mono hrest) _

/-! ## Start times -/

/-- The microseconds of a number of milliseconds that is not negative. -/
def microsOfMillis (millis : Nat) : Nat := microsOfSize (roundToGrid millis 1000)

theorem microsOfMillis_mono : Monotone microsOfMillis := by
  intro m n h
  apply microsOfSize_mono
  exact roundToGrid_mono (by decide) (by decide) (Nat.mul_le_mul_right 1000 h)

theorem microsOfMillis_zero : microsOfMillis 0 = 0 := by
  have hgrid {den : Nat} (hden : 0 < den) : roundToGrid 0 den = 0 := by
    have hmul := roundToGrid_mul onGrid_zero hden
    rwa [Nat.zero_mul] at hmul
  have hround : roundHalfEven 0 unitsPerOne = 0 := by
    have hmul := roundHalfEven_mul 0 unitsPerOne_pos
    rwa [Nat.zero_mul] at hmul
  have hfraction : microsOfFraction 0 = 0 := by
    rw [microsOfFraction, Nat.zero_mul, hgrid (by decide), hround]
  rw [microsOfMillis, hgrid (by decide), microsOfSize, Nat.zero_div, Nat.zero_mod, Nat.zero_mul,
    hfraction]

theorem Calendar.Moment.ofMicros_eq_ok {micros : Int} {moment : Moment} :
    Moment.ofMicros micros = .ok moment ↔ moment.micros = micros := by
  constructor
  · intro h
    unfold Moment.ofMicros at h
    split at h
    · rw [← Except.ok.inj h]
    · dsimp only at h
      split at h
      · cases h
      · split at h <;> cases h
  · rintro rfl
    exact dif_pos ⟨moment.first_le, moment.lt_past⟩

namespace NetworkEvent

/-- Whether an event starts at a moment. -/
def HasStart (event : NetworkEvent) : Prop := ∃ moment, event.startMoment = .ok moment

instance (event : NetworkEvent) : Decidable event.HasStart :=
  match h : event.startMoment with
  | .ok moment => .isTrue ⟨moment, h⟩
  | .error _ => .isFalse fun ⟨_, hmoment⟩ => nomatch h.symm.trans hmoment

/-- The moment of a start is that of its microseconds: no start time has infinitely many seconds. -/
theorem startMoment_eq (event : NetworkEvent) :
    event.startMoment = Moment.ofMicros
      (event.startTime.signed (microsOfMillis event.startTime.magnitude.units)) := by
  have hfinite : roundToGrid event.startTime.magnitude.units 1000 < unitsLimit :=
    Nat.lt_of_le_of_lt (roundToGrid_le_self (by decide) event.startTime.magnitude.onGrid)
      event.startTime.magnitude.bounded
  obtain ⟨seconds, hseconds, hsign, hsize⟩ :=
    Binary64.exists_ofRatio event.startTime.negative hfinite
  have hmoment : event.startMoment = Moment.ofMicros (Moment.microsOfSeconds seconds) :=
    congrArg Moment.ofSeconds hseconds
  rw [hmoment, microsOfSeconds_eq, hsize, Finite64.signed, hsign]
  rfl

/-- An event starts at the moment of these microseconds, if there is one. -/
theorem startMoment_eq_ok {event : NetworkEvent} {moment : Moment} :
    event.startMoment = .ok moment ↔
      moment.micros = event.startTime.signed (microsOfMillis event.startTime.magnitude.units) := by
  rw [startMoment_eq, Moment.ofMicros_eq_ok]

/-- **A later start time is not an earlier moment**, in the order of the calendar. -/
theorem startMoment_mono {a b : NetworkEvent} {first later : Moment}
    (hfirst : a.startMoment = .ok first) (hlater : b.startMoment = .ok later)
    (h : a.startTime.place ≤ b.startTime.place) : first ≤ later := by
  rw [Calendar.Moment.le_iff_micros, startMoment_eq_ok.1 hfirst,
    startMoment_eq_ok.1 hlater]
  exact Finite64.signed_mono microsOfMillis_mono microsOfMillis_zero (Place.units_le_units.1 h)

end NetworkEvent

end NetTimeline
