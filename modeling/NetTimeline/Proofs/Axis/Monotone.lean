import NetTimeline.Proofs.Axis.Refusal

/-!
# Longer spans and more intervals

A longer span never gets a finer axis, and more intervals never get a coarser one. This holds at
any size, also where a step is longer than its span, and whether the spans are whole numbers or
binary64 values.

Up to `2 ^ 53` intervals the interval is one rounding of the exact quotient of either kind of span,
so it grows with the span and shrinks when more intervals are wanted. Each search alone follows the
interval or the span. When one axis takes the step that covers its interval and the other one the
step within its span, the two searches have to be compared: the first ends with a number of half
hours that is a binary64 value (`Step.Counted`), and no rounded quotient passes such a number.

Principal results:

* `Step.atLeast_mono`, `Step.within_mono` — each search follows the time;
* `Step.le_within`, `Step.within_le` — what the search from above finds, beside the other search;
* `Ruler.chooseStep_mono` — the choice follows the span and the number of intervals;
* `Axis.step_monotone` — the law for the steps of axes.
-/

set_option autoImplicit false

namespace NetTimeline

namespace Step

variable {time other : Number} {u v step found : Nat}

/-! ## Each search alone -/

/-- A number of half hours that is not zero is at least one. -/
theorem halfHour_le_of_nice {count : Nat} (h : Nice (halfHour * count)) :
    halfHour ≤ halfHour * count :=
  Nat.le_mul_of_pos_right _ (Nat.pos_of_mul_pos_left h.pos)

/-- The rounded number of half hours follows the time. -/
theorem halfHours_mono (hle : u ≤ v) : roundToGrid u halfHour ≤ roundToGrid v halfHour :=
  roundToGrid_mono halfHour_pos halfHour_pos (Nat.mul_le_mul_right _ hle)

/-- **The search from above follows the time.** -/
theorem atLeast_mono (h : time.LiesAt u) (hother : other.LiesAt v) (hle : u ≤ v)
    (hs : atLeast time = .ok step) (hfound : atLeast other = .ok found) : step ≤ found := by
  rcases atLeast_cases h hs with
    ⟨-, hmem, -, hleast⟩ | ⟨hpast, quotient, count, hquotient, hcount, rfl⟩
  · rcases atLeast_cases hother hfound with ⟨-, hmem', hcovers, -⟩ | ⟨-, q, c, -, -, rfl⟩
    · exact hleast found hmem' (Nat.le_trans hle hcovers)
    · exact Nat.le_trans (le_halfHour_of_mem hmem)
        (halfHour_le_of_nice (atLeast_nice hother hfound))
  · rcases atLeast_cases hother hfound with ⟨hshort, -⟩ | ⟨-, q, c, hq, hc, rfl⟩
    · omega
    · refine Nat.mul_le_mul_left _ ((quotient_ceil h hquotient hcount _).2 ?_)
      exact Nat.le_trans (halfHours_mono hle) ((quotient_ceil hother hq hc _).1 (Nat.le_refl _))

/-- **The search from below follows the time.** -/
theorem within_mono (h : time.LiesAt u) (hother : other.LiesAt v) (hle : u ≤ v)
    (hs : within time = .ok step) (hfound : within other = .ok found) : step ≤ found := by
  have hnice := within_nice hother hfound
  rcases within_cases h hs with
    ⟨-, rfl⟩ | ⟨hone, hshort, hmem, hinside, -⟩ | ⟨hpast, quotient, count, hquotient, hcount, rfl⟩
  · exact hnice.pos
  · rcases within_cases hother hfound with ⟨hlt, -⟩ | ⟨-, -, -, -, hgreatest⟩ | ⟨-, q, c, -, -, rfl⟩
    · omega
    · exact hgreatest step hmem (Nat.le_trans hinside hle)
    · exact Nat.le_trans (le_halfHour_of_mem hmem) (halfHour_le_of_nice hnice)
  · rcases within_cases hother hfound with ⟨hlt, -⟩ | ⟨-, hlt, -⟩ | ⟨-, q, c, hq, hc, rfl⟩
    · have := Nat.le_mul_of_pos_left unitsPerOne halfHour_pos
      omega
    · omega
    · refine Nat.mul_le_mul_left _ ((quotient_floor hother hq hc _).2 ?_)
      exact Nat.le_trans ((quotient_floor h hquotient hcount _).1 (Nat.le_refl _))
        (halfHours_mono hle)

/-! ## The two searches beside each other -/

/-- The number of half hours in the step, if it is whole, is a binary64 value. -/
def Counted (step : Nat) : Prop :=
  ∀ count, step = halfHour * count → OnGrid (count * unitsPerOne)

/-- A binary64 value, rounded up to a whole number, is one again. -/
theorem onGrid_of_ceil {r c : Nat} (hr : OnGrid r) (hceil : ∀ k, c ≤ k ↔ r ≤ k * unitsPerOne) :
    OnGrid (c * unitsPerOne) := by
  rcases Nat.lt_or_ge (2 ^ 53) c with hlarge | hsmall
  · have hbeyond : 2 ^ 53 * unitsPerOne ≤ r := by
      have := (not_congr (hceil (2 ^ 53))).1 (by omega)
      omega
    obtain ⟨m, rfl⟩ := unitsPerOne_dvd hr hbeyond
    have hle : c ≤ m := (hceil m).2 (Nat.le_of_eq (Nat.mul_comm _ _))
    have hge : m ≤ c := by
      have := (hceil c).1 (Nat.le_refl c)
      rw [Nat.mul_comm] at this
      exact Nat.le_of_mul_le_mul_right this unitsPerOne_pos
    rwa [Nat.le_antisymm hle hge, Nat.mul_comm]
  · exact onGrid_mul_unitsPerOne hsmall

theorem atLeast_counted (h : time.LiesAt u) (hs : atLeast time = .ok step) : Counted step := by
  intro count hstep
  rcases atLeast_cases h hs with ⟨-, hmem, -⟩ | ⟨-, quotient, c, hquotient, hc, heq⟩
  · have hfew : halfHour * count ≤ halfHour * 1 := by
      rw [← hstep, Nat.mul_one]
      exact le_halfHour_of_mem hmem
    have := Nat.le_of_mul_le_mul_left hfew halfHour_pos
    exact onGrid_mul_unitsPerOne (by omega)
  · obtain rfl : c.toNat = count := Nat.eq_of_mul_eq_mul_left halfHour_pos (heq.symm.trans hstep)
    exact onGrid_of_ceil (onGrid_roundToGrid _ _) (quotient_ceil h hquotient hc)

/-- **What the search from above can find and the time holds, the search from below reaches.** -/
theorem le_within (hnice : Nice step) (hcounted : Counted step) (h : time.LiesAt u)
    (hinside : step * unitsPerOne ≤ u) (hfound : within time = .ok found) : step ≤ found := by
  rcases within_cases h hfound with
    ⟨hlt, -⟩ | ⟨-, hlt, -, -, hgreatest⟩ | ⟨-, quotient, count, hquotient, hcount, rfl⟩
  · have := Nat.le_mul_of_pos_left unitsPerOne hnice.pos
    omega
  · have hsmall : step < halfHour := Nat.lt_of_mul_lt_mul_right (Nat.lt_of_le_of_lt hinside hlt)
    exact hgreatest step (hnice.mem_of_le (Nat.le_of_lt hsmall)) hinside
  · rcases Nat.le_total step halfHour with hsmall | hlarge
    · exact Nat.le_trans hsmall (halfHour_le_of_nice (within_nice h hfound))
    · obtain ⟨k, -, rfl⟩ := hnice.eq_mul_of_le hlarge
      refine Nat.mul_le_mul_left _ ((quotient_floor h hquotient hcount k).2 ?_)
      refine le_roundToGrid halfHour_pos (hcounted k rfl) ?_
      calc k * unitsPerOne * halfHour = halfHour * k * unitsPerOne := by ring
        _ ≤ u := hinside

/-- **What the search from above can find beyond the time, the search from below does not pass**,
although it can go beyond the time itself. -/
theorem within_le (hnice : Nice step) (hcounted : Counted step) (h : time.LiesAt u)
    (hbeyond : u < step * unitsPerOne) (hfound : within time = .ok found) : found ≤ step := by
  rcases within_cases h hfound with
    ⟨-, rfl⟩ | ⟨-, -, -, hinside, -⟩ | ⟨hpast, quotient, count, hquotient, hcount, rfl⟩
  · exact hnice.pos
  · have hlt : found * unitsPerOne < step * unitsPerOne := Nat.lt_of_le_of_lt hinside hbeyond
    exact Nat.le_of_lt (Nat.lt_of_mul_lt_mul_right hlt)
  · have hlarge : halfHour < step :=
      Nat.lt_of_mul_lt_mul_right (Nat.lt_of_le_of_lt hpast hbeyond)
    obtain ⟨k, -, rfl⟩ := hnice.eq_mul_of_le (Nat.le_of_lt hlarge)
    have hround : roundToGrid u halfHour ≤ k * unitsPerOne := by
      refine roundToGrid_le halfHour_pos (hcounted k rfl) ?_
      calc u ≤ halfHour * k * unitsPerOne := Nat.le_of_lt hbeyond
        _ = k * unitsPerOne * halfHour := by ring
    have hreach := (quotient_floor h hquotient hcount _).1 (Nat.le_refl _)
    exact Nat.mul_le_mul_left _
      (Nat.le_of_mul_le_mul_right (Nat.le_trans hreach hround) unitsPerOne_pos)

end Step

/-! ## The choice between them -/

namespace Ruler

variable {span longer : Number} {u v ticks more step coarse : Nat}

/-- **The step follows the span and the number of intervals**: it is not greater for a span that is
not longer and in which no fewer intervals are wanted. -/
theorem chooseStep_mono (h : span.LiesAt u) (hlonger : longer.LiesAt v) (hle : u ≤ v)
    (hticks : 0 < ticks) (hmore : ticks ≤ more) (hmost : more ≤ 2 ^ 53)
    (hs : chooseStep span more = .ok step) (hcoarse : chooseStep longer ticks = .ok coarse) :
    step ≤ coarse := by
  have hinterval : intervalUnits span u more ≤ intervalUnits longer v ticks := by
    rw [intervalUnits_eq hmost, intervalUnits_eq (by omega)]
    exact roundToGrid_mono (by omega) hticks (Nat.mul_le_mul hle hmore)
  obtain ⟨_, first, -, hlies, hfirst, hchoice⟩ := chooseStep_cases h (by omega) hs
  obtain ⟨_, last, -, hlies', hlast, hchoice'⟩ := chooseStep_cases hlonger hticks hcoarse
  have hcovers : first ≤ last := Step.atLeast_mono hlies hlies' hinterval hfirst hlast
  have hnice := Step.atLeast_nice hlies hfirst
  have hcounted := Step.atLeast_counted hlies hfirst
  rcases hchoice with ⟨rfl, hinside⟩ | ⟨-, hbeyond, hwithin⟩ <;>
    rcases hchoice' with ⟨rfl, -⟩ | ⟨-, -, hwithin'⟩
  · exact hcovers
  · rcases hinside with hinside | rfl
    · exact Step.le_within hnice hcounted hlonger (Nat.le_trans hinside hle) hwithin'
    · rw [chooseStep_eq_one h unitsPerOne_pos (by omega) hs]
      exact (Step.within_nice hlonger hwithin').pos
  · exact Nat.le_trans (Step.within_le hnice hcounted h hbeyond hwithin) hcovers
  · exact Step.within_mono h hlonger hle hwithin hwithin'

end Ruler

namespace Axis

variable {span longer : Number} {ticks more : Int} {axis finer coarser : Axis}

/-- Two axes whose steps were chosen in this order have their steps in this order. -/
theorem exists_steps (hspan : span.le longer = true) (hmore : ticks ≤ more)
    (hmost : more ≤ 2 ^ 53) (hfiner : divide span (.number (.int more)) = .ok finer)
    (hcoarser : divide longer (.number (.int ticks)) = .ok coarser) :
    ∃ fine coarse, Ruler.chooseStep span more.toNat = .ok fine ∧
      Ruler.chooseStep longer ticks.toNat = .ok coarse ∧ fine ≤ coarse ∧
      finer.step.units ≤ coarser.step.units := by
  obtain ⟨-, u, ruler, hu, hruler, hdrawn⟩ := divide_cases hfiner
  obtain ⟨hticks, v, ruler', hv, hruler', hdrawn'⟩ := divide_cases hcoarser
  obtain ⟨hstep, -⟩ := Ruler.forSpan_cases hu hruler
  obtain ⟨hstep', -⟩ := Ruler.forSpan_cases hv hruler'
  have hle : ruler.step ≤ ruler'.step :=
    Ruler.chooseStep_mono hu hv ((hu.le_iff hv).1 hspan) (by omega) (by omega) (by omega)
      hstep hstep'
  refine ⟨_, _, hstep, hstep', hle, ?_⟩
  rw [AxisError.units_eq_of_field (ofRuler_cases hdrawn).2.1,
    AxisError.units_eq_of_field (ofRuler_cases hdrawn').2.1, Int.ofNat_le]
  refine roundToGrid_mono (by decide) (by decide) ?_
  exact Nat.mul_le_mul_right _ (Nat.mul_le_mul_right _ hle)

/-- A usable span that converts has an axis of any number of intervals up to `2 ^ 53`. -/
theorem exists_divide_of_usable (husable : span.Usable) (hconverts : span.Converts)
    (hticks : 1 ≤ ticks) (hmost : ticks ≤ 2 ^ 53) :
    ∃ axis, divide span (.number (.int ticks)) = .ok axis := by
  obtain ⟨u, hu⟩ := Number.usable_iff.1 husable
  exact exists_divide hu hconverts hticks (Number.dividesBy_of_le span (by omega))

/-- **A longer span never gets a finer axis, and more intervals never get a coarser one.** All three
axes exist, and it is so for the steps in whole milliseconds as well as for those that the axes
hold. -/
theorem step_monotone (hspan : span.Usable) (hconverts : span.Converts)
    (hlonger : longer.Usable) (hconverts' : longer.Converts) (hle : span.le longer = true)
    (hticks : 1 ≤ ticks) (hmore : ticks ≤ more) (hmost : more ≤ 2 ^ 53) :
    ∃ axis coarser finer step coarse fine,
      divide span (.number (.int ticks)) = .ok axis ∧
      divide longer (.number (.int ticks)) = .ok coarser ∧
      divide span (.number (.int more)) = .ok finer ∧
      Ruler.chooseStep span ticks.toNat = .ok step ∧
      Ruler.chooseStep longer ticks.toNat = .ok coarse ∧
      Ruler.chooseStep span more.toNat = .ok fine ∧
      step ≤ coarse ∧ axis.step.units ≤ coarser.step.units ∧
      fine ≤ step ∧ finer.step.units ≤ axis.step.units := by
  obtain ⟨axis, haxis⟩ :=
    exists_divide_of_usable hspan hconverts hticks (Int.le_trans hmore hmost)
  obtain ⟨coarser, hcoarser⟩ :=
    exists_divide_of_usable hlonger hconverts' hticks (Int.le_trans hmore hmost)
  obtain ⟨finer, hfiner⟩ :=
    exists_divide_of_usable hspan hconverts (Int.le_trans hticks hmore) hmost
  obtain ⟨u, hu⟩ := Number.usable_iff.1 hspan
  have hsame : span.le span = true := (hu.le_iff hu).2 (Nat.le_refl u)
  obtain ⟨step, coarse, hstep, hcoarse, hsteps, hfields⟩ :=
    exists_steps hle (Int.le_refl _) (Int.le_trans hmore hmost) haxis hcoarser
  obtain ⟨fine, step', hfine, hstep', hsteps', hfields'⟩ :=
    exists_steps hsame hmore hmost hfiner haxis
  obtain rfl : step = step' := Except.ok.inj (hstep.symm.trans hstep')
  exact ⟨axis, coarser, finer, step, coarse, fine, haxis, hcoarser, hfiner, hstep, hcoarse, hfine,
    hsteps, hfields, hsteps', hfields'⟩

/-- One interval of 125 seconds would take a step of five minutes, and has one of two minutes, as
have two intervals; half a millisecond past five minutes the step of one is five minutes. -/
theorem step_monotone_overshoot :
    ∃ axis coarser finer, divide (.int 125000) (.number (.int 1)) = .ok axis ∧
      divide (.float (.ofQuotient 600001 2)) (.number (.int 1)) = .ok coarser ∧
      divide (.int 125000) (.number (.int 2)) = .ok finer ∧
      axis.step.units ≤ coarser.step.units ∧ finer.step.units ≤ axis.step.units := by
  have hconverts : (Number.int 125000).Converts := Nat.lt_trans (by decide) pow_lt_wholeBound
  have hplace : (Number.float (.ofQuotient 600001 2)).place? =
      some (.units ((600001 * unitsPerOne / 2 : Nat) : Int)) := by decide +kernel
  obtain ⟨axis, coarser, finer, _, _, _, haxis, hcoarser, hfiner, -, -, -, -, hlonger, -, hmore⟩ :=
    step_monotone (show (Number.int 125000).Usable from (by decide : (0 : Int) ≤ 125000)) hconverts
      (Number.usable_iff.2 ⟨_, hplace⟩) trivial (by decide +kernel) (show (1 : Int) ≤ 1 by decide)
      (show (1 : Int) ≤ 2 by decide) (by decide)
  exact ⟨axis, coarser, finer, haxis, hcoarser, hfiner, hlonger, hmore⟩

end Axis

end NetTimeline
