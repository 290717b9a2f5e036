import Mathlib.Order.Bounds.Basic
import NetTimeline.Proofs.Axis.Distinct

/-!
# The nice steps around a time

Past half an hour both searches for a step divide by half an hour, round the quotient to a binary64
value and take its ceiling or its floor. A time just above a multiple of half an hour could so be
answered with the multiple, or one just below with the next. Below `2 ^ 53` it is not: a time on the
grid that misses a multiple does so by a spacing, and the rounding moves the product by less.

Principal result: `Step.neighbours_exact` — both searches succeed, and what they find are the least
nice step that is not below the time and the greatest one that is not above it.
-/

set_option autoImplicit false

namespace NetTimeline.Step

/-- The nice steps that cover a time. -/
def Covering (time : Number) : Set Nat := {step | Nice step ∧ time.le (.int step) = true}

/-- The nice steps that fit into a time. -/
def Fitting (time : Number) : Set Nat := {step | Nice step ∧ Number.le (.int step) time = true}

variable {time : Number} {u step : Nat}

theorem atLeast_isLeast (h : time.LiesAt u) (h53 : u < 2 ^ 53 * unitsPerOne)
    (hs : atLeast time = .ok step) : IsLeast (Covering time) step := by
  obtain ⟨hcovers, hleast⟩ := atLeast_least h h53 hs
  refine ⟨⟨atLeast_nice h hs, (h.le_int step).2 hcovers⟩, ?_⟩
  rintro other ⟨hnice, hother⟩
  exact hleast other hnice ((h.le_int other).1 hother)

theorem within_isGreatest (h : time.LiesAt u) (hone : unitsPerOne ≤ u)
    (h53 : u < 2 ^ 53 * unitsPerOne) (hs : within time = .ok step) :
    IsGreatest (Fitting time) step := by
  obtain ⟨hfits, hgreatest⟩ := within_greatest h hone h53 hs
  refine ⟨⟨within_nice h hs, (h.int_le step).2 hfits⟩, ?_⟩
  rintro other ⟨hnice, hother⟩
  exact hgreatest other hnice ((h.int_le other).1 hother)

/-- **Both searches are exact below `2 ^ 53`.** For every such time, whole or binary64, there is an
answer from above, and it is the least nice step that covers the time; from one millisecond on there
is an answer from below, and it is the greatest nice step that fits into it. -/
theorem neighbours_exact (husable : time.Usable) (h53 : time.lt (.int (2 ^ 53 : Nat)) = true) :
    (∃ step, atLeast time = .ok step ∧ IsLeast (Covering time) step) ∧
      (Number.le (.int 1) time = true →
        ∃ step, within time = .ok step ∧ IsGreatest (Fitting time) step) := by
  obtain ⟨u, hu⟩ := Number.usable_iff.1 husable
  have hbelow : u < 2 ^ 53 * unitsPerOne := (hu.lt_int _).1 h53
  have hconverts : time.Converts := husable.converts_of_lt h53
  constructor
  · obtain ⟨step, hstep⟩ := exists_atLeast hu hconverts
    exact ⟨step, hstep, atLeast_isLeast hu hbelow hstep⟩
  · intro hone
    obtain ⟨step, hstep⟩ := exists_within hu hconverts
    exact ⟨step, hstep, within_isGreatest hu (hu.one_le.1 hone) hbelow hstep⟩

/-- The binary64 value next above an hour. -/
def pastOneHour : Number := .float (.ofQuotient (3600000 * 2 ^ 31 + 1) (2 ^ 31))

/-- Its quotient by half an hour lies less than a spacing above two, and is not rounded to two: an
hour fits into it, and only an hour and a half covers it. -/
theorem neighbours_exact_pastOneHour :
    atLeast pastOneHour = .ok 5400000 ∧ IsLeast (Covering pastOneHour) 5400000 ∧
      within pastOneHour = .ok 3600000 ∧ IsGreatest (Fitting pastOneHour) 3600000 := by
  have husable : pastOneHour.Usable := by
    refine Number.usable_iff.2 ⟨(3600000 * 2 ^ 31 + 1) * (unitsPerOne / 2 ^ 31), ?_⟩
    unfold Number.LiesAt
    decide +kernel
  have habove : atLeast pastOneHour = .ok 5400000 := by decide +kernel
  have hbelow : within pastOneHour = .ok 3600000 := by decide +kernel
  obtain ⟨⟨upper, hupper, hleast⟩, hfits⟩ := neighbours_exact husable (by decide +kernel)
  obtain ⟨lower, hlower, hgreatest⟩ := hfits (by decide +kernel)
  obtain rfl := Except.ok.inj (hupper.symm.trans habove)
  obtain rfl := Except.ok.inj (hlower.symm.trans hbelow)
  exact ⟨habove, hleast, hbelow, hgreatest⟩

/-- Beyond `2 ^ 53` a step can be found that does not fit. -/
example : within (.int 15461882267399999) = .ok 15461882267400000 := by decide +kernel

end NetTimeline.Step
