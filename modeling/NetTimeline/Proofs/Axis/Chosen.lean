import NetTimeline.Axis.Basic
import NetTimeline.Proofs.Axis.NiceStep

/-!
# The chosen step

`Ruler.chooseStep` searches for the least nice step that covers the rounded interval between two
ticks, and within the span if that step overshoots it. `chooseStep_cases` takes the choice apart
for spans of any size, `chooseStep_cases_below` for spans below `2 ^ 53`, where both searches are
exact.

Principal results:

* `chooseStep_nice` — the step is nice;
* `chooseStep_le` — below `2 ^ 53` it is within a span of one or more;
* `chooseStep_density` — how many whole steps a span below `2 ^ 53` holds.
-/

set_option autoImplicit false

namespace NetTimeline.Ruler

/-- The units of the interval between two of `ticks` ticks, as the division rounds it. -/
def intervalUnits (span : Number) (u ticks : Nat) : Nat :=
  roundToGrid (u * unitsPerOne) (span.divisorUnits ticks)

section Interval

variable {span : Number} {u ticks : Nat}

theorem intervalUnits_le {g : Nat} (hticks : 0 < ticks) (hg : OnGrid g)
    (h : u * unitsPerOne ≤ g * span.divisorUnits ticks) : intervalUnits span u ticks ≤ g :=
  roundToGrid_le (Number.divisorUnits_pos span hticks) hg h

theorem intervalUnits_le_self (span : Number) (hticks : 0 < ticks) (hu : OnGrid u) :
    intervalUnits span u ticks ≤ u := by
  refine intervalUnits_le hticks hu (Nat.mul_le_mul_left _ ?_)
  have := Number.le_divisorUnits span (by decide : 1 ≤ 2 ^ 53) hticks
  omega

/-- As many ticks as this are never more than one apart. -/
theorem intervalUnits_le_one (span : Number) (h53 : u ≤ 2 ^ 53 * unitsPerOne)
    (hticks : 2 ^ 53 ≤ ticks) : intervalUnits span u ticks ≤ unitsPerOne := by
  refine intervalUnits_le (by omega) onGrid_unitsPerOne ?_
  calc u * unitsPerOne ≤ 2 ^ 53 * unitsPerOne * unitsPerOne := Nat.mul_le_mul_right _ h53
    _ ≤ span.divisorUnits ticks * unitsPerOne :=
      Nat.mul_le_mul_right _ (Number.le_divisorUnits span (Nat.le_refl _) hticks)
    _ = unitsPerOne * span.divisorUnits ticks := Nat.mul_comm _ _

theorem intervalUnits_eq (hticks : ticks ≤ 2 ^ 53) :
    intervalUnits span u ticks = roundToGrid u ticks := by
  rw [intervalUnits, Number.divisorUnits_eq _ hticks, roundToGrid_mul_right _ _ unitsPerOne_pos]

/-- A span is less than one interval longer than all its intervals, when these are rounded. -/
theorem lt_succ_mul_of_roundToGrid_le {g : Nat} (hticks : 0 < ticks) (ht53 : ticks ≤ 2 ^ 53)
    (hone : unitsPerOne ≤ u) (h53 : u < 2 ^ 53 * unitsPerOne) (hg : unitsPerOne ≤ g)
    (h : roundToGrid u ticks ≤ g) : u < (ticks + 1) * g := by
  obtain ⟨herror, -⟩ := roundToGrid_error u ticks hticks
  have hspacing : ticks * spacing (u / ticks) * 2 ^ 52 < 2 ^ 53 * unitsPerOne := by
    calc ticks * spacing (u / ticks) * 2 ^ 52 = ticks * (spacing (u / ticks) * 2 ^ 52) := by ring
      _ ≤ ticks * (u / ticks) :=
        Nat.mul_le_mul_left _ (spacing_mul_le (le_div_of_unitsPerOne_le hticks ht53 hone))
      _ ≤ u := Nat.mul_div_le u ticks
      _ < 2 ^ 53 * unitsPerOne := h53
  have hproduct : roundToGrid u ticks * ticks ≤ ticks * g := by
    rw [Nat.mul_comm]
    exact Nat.mul_le_mul_left _ h
  rw [Nat.succ_mul]
  omega

end Interval

section Choice

variable {span : Number} {u ticks step : Nat}

/-- **What the choice of a step can end with**: the step that covers the interval, or the one
within the span if the former overshoots it. -/
theorem chooseStep_cases (h : span.LiesAt u) (hticks : 0 < ticks)
    (hs : chooseStep span ticks = .ok step) :
    ∃ interval first, span.div ticks = .ok interval ∧
      (Number.float interval).LiesAt (intervalUnits span u ticks) ∧
      Step.atLeast (.float interval) = .ok first ∧
      ((step = first ∧ (first * unitsPerOne ≤ u ∨ u = 0)) ∨
        (0 < u ∧ u < first * unitsPerOne ∧ Step.within span = .ok step)) := by
  obtain ⟨interval, hinterval, hrest⟩ := Except.bind_eq_ok.1 hs
  obtain ⟨first, hfirst, hchoice⟩ := Except.bind_eq_ok.1 hrest
  refine ⟨interval, first, hinterval, h.div hticks hinterval, hfirst, ?_⟩
  have hovershoot : (span.lt (.int first) && Number.lt (.int 0) span) = true ↔
      u < first * unitsPerOne ∧ 0 < u := by
    rw [Bool.and_eq_true, h.lt_int, h.zero_lt]
  by_cases hover : u < first * unitsPerOne ∧ 0 < u
  · rw [if_pos (hovershoot.2 hover)] at hchoice
    exact Or.inr ⟨hover.2, hover.1, hchoice⟩
  · rw [if_neg (fun hc => hover (hovershoot.1 hc))] at hchoice
    exact Or.inl ⟨(Except.ok.inj hchoice).symm, by omega⟩

/-- **The step is nice**, for a span of any size. -/
theorem chooseStep_nice (h : span.LiesAt u) (hticks : 0 < ticks)
    (hs : chooseStep span ticks = .ok step) : Step.Nice step := by
  obtain ⟨interval, first, -, hlies, hfirst, ⟨rfl, -⟩ | ⟨-, -, hwithin⟩⟩ :=
    chooseStep_cases h hticks hs
  · exact Step.atLeast_nice hlies hfirst
  · exact Step.within_nice h hwithin

/-- Below `2 ^ 53` the step that covers the interval is the least nice one. -/
theorem chooseStep_cases_below (h : span.LiesAt u) (h53 : u < 2 ^ 53 * unitsPerOne)
    (hticks : 0 < ticks) (hs : chooseStep span ticks = .ok step) :
    ∃ first, Step.Nice first ∧ intervalUnits span u ticks ≤ first * unitsPerOne ∧
      (∀ t, Step.Nice t → intervalUnits span u ticks ≤ t * unitsPerOne → first ≤ t) ∧
      ((step = first ∧ (first * unitsPerOne ≤ u ∨ u = 0)) ∨
        (0 < u ∧ u < first * unitsPerOne ∧ Step.within span = .ok step)) := by
  obtain ⟨interval, first, -, hlies, hfirst, hchoice⟩ := chooseStep_cases h hticks hs
  have hle := intervalUnits_le_self span hticks (h.onGrid h53)
  obtain ⟨hcovers, hleast⟩ := Step.atLeast_least hlies (by omega) hfirst
  exact ⟨first, Step.atLeast_nice hlies hfirst, hcovers, hleast, hchoice⟩

/-- **The step is within the span**, if that is one or more. -/
theorem chooseStep_le (h : span.LiesAt u) (hone : unitsPerOne ≤ u)
    (h53 : u < 2 ^ 53 * unitsPerOne) (hticks : 0 < ticks)
    (hs : chooseStep span ticks = .ok step) : step * unitsPerOne ≤ u := by
  have hpos := unitsPerOne_pos
  obtain ⟨first, -, -, -, ⟨rfl, hle | hzero⟩ | ⟨-, -, hwithin⟩⟩ :=
    chooseStep_cases_below h h53 hticks hs
  · exact hle
  · omega
  · exact (Step.within_greatest h hone h53 hwithin).1

/-- Ticks that need not be more than one apart are one apart. -/
theorem chooseStep_eq_one_of_interval (h : span.LiesAt u)
    (hinterval : intervalUnits span u ticks ≤ unitsPerOne) (hticks : 0 < ticks)
    (hs : chooseStep span ticks = .ok step) : step = 1 := by
  obtain ⟨interval, first, -, hlies, hfirst, hchoice⟩ := chooseStep_cases h hticks hs
  obtain rfl := Step.atLeast_eq_one hlies hinterval hfirst
  rcases hchoice with ⟨hstep, -⟩ | ⟨-, hover, hwithin⟩
  · exact hstep
  · exact Step.within_eq_one h (by omega) hwithin

/-- A span of less than one has the least step. -/
theorem chooseStep_eq_one (h : span.LiesAt u) (hlt : u < unitsPerOne) (hticks : 0 < ticks)
    (hs : chooseStep span ticks = .ok step) : step = 1 := by
  have hself := intervalUnits_le_self span hticks (h.onGrid (by omega))
  exact chooseStep_eq_one_of_interval h (by omega) hticks hs

/-! ### How many steps the span holds -/

/-- The next lower nice step does not cover the interval, and it is not far below. -/
theorem mul_lt_of_least {first : Nat} (h : span.LiesAt u) (h53 : u < 2 ^ 53 * unitsPerOne)
    (hticks : 0 < ticks) (hnice : Step.Nice first) (hfirst : 1 < first)
    (hleast : ∀ t, Step.Nice t → intervalUnits span u ticks ≤ t * unitsPerOne → first ≤ t) :
    ticks ≤ 2 ^ 53 ∧ 2 * ticks * (first * unitsPerOne) < 5 * u := by
  obtain ⟨lower, hlower, hlt, hratio⟩ := hnice.exists_below hfirst
  have hover : lower * unitsPerOne < intervalUnits span u ticks := by
    by_contra hle
    have := hleast lower hlower (by omega)
    omega
  have ht53 : ticks ≤ 2 ^ 53 := by
    by_contra hmany
    have := intervalUnits_le_one span (Nat.le_of_lt h53) (by omega : 2 ^ 53 ≤ ticks)
    have := Nat.le_mul_of_pos_left unitsPerOne hlower.pos
    omega
  rw [intervalUnits_eq ht53] at hover
  have hlower53 : lower ≤ 2 ^ 53 := by
    have hself := roundToGrid_le_self hticks (h.onGrid h53)
    have : lower * unitsPerOne < 2 ^ 53 * unitsPerOne := by omega
    exact Nat.le_of_lt (Nat.lt_of_mul_lt_mul_right this)
  have hspan : lower * unitsPerOne * ticks < u := by
    by_contra hle
    have : roundToGrid u ticks ≤ lower * unitsPerOne :=
      roundToGrid_le hticks (onGrid_mul_unitsPerOne hlower53) (by omega)
    omega
  refine ⟨ht53, ?_⟩
  calc 2 * ticks * (first * unitsPerOne) = 2 * first * (ticks * unitsPerOne) := by ring
    _ ≤ 5 * lower * (ticks * unitsPerOne) := Nat.mul_le_mul_right _ hratio
    _ = 5 * (lower * unitsPerOne * ticks) := by ring
    _ < 5 * u := by omega

/-- **The span holds as many whole steps as wanted or two at most**, and at least two fifths of
as many, unless the step is one. -/
theorem chooseStep_density (h : span.LiesAt u) (hone : unitsPerOne ≤ u)
    (h53 : u < 2 ^ 53 * unitsPerOne) (hticks : 0 < ticks)
    (hs : chooseStep span ticks = .ok step) :
    max 1 (min (u / unitsPerOne) (2 * ticks / 5)) ≤ u / unitsPerOne / step ∧
      u / unitsPerOne / step ≤ max ticks 2 := by
  have hpos := unitsPerOne_pos
  have hnice := chooseStep_nice h hticks hs
  have hinside := chooseStep_le h hone h53 hticks hs
  have hlower (m : Nat) : m ≤ u / unitsPerOne / step ↔ m * (step * unitsPerOne) ≤ u := by
    rw [Nat.le_div_iff_mul_le hnice.pos, Nat.le_div_iff_mul_le hpos, Nat.mul_assoc]
  have hupper (m : Nat) : u / unitsPerOne / step ≤ m ↔ u < (m + 1) * (step * unitsPerOne) := by
    rw [← Nat.lt_succ_iff, ← not_le, hlower, not_le]
  have honetick : 1 ≤ u / unitsPerOne / step := (hlower 1).2 (by omega)
  obtain ⟨first, hfirst, hcovers, hleast, hchoice⟩ := chooseStep_cases_below h h53 hticks hs
  have hsparse : 1 < first → ticks ≤ 2 ^ 53 ∧ 2 * ticks * (first * unitsPerOne) < 5 * u :=
    fun hlt => mul_lt_of_least h h53 hticks hfirst hlt hleast
  have hfirstpos := hfirst.pos
  rcases hchoice with ⟨rfl, -⟩ | ⟨-, hover, hwithin⟩
  · constructor
    · refine Nat.max_le.2 ⟨honetick, ?_⟩
      rcases Nat.eq_or_lt_of_le hfirstpos with hleaststep | hmore
      · rw [← hleaststep, Nat.div_one]
        exact Nat.min_le_left _ _
      · refine Nat.le_trans (Nat.min_le_right _ _) ((hlower _).2 ?_)
        obtain ⟨-, hratio⟩ := hsparse hmore
        have hfifth : 5 * (2 * ticks / 5) * (step * unitsPerOne) ≤
            2 * ticks * (step * unitsPerOne) := Nat.mul_le_mul_right _ (Nat.mul_div_le _ 5)
        rw [Nat.mul_assoc] at hfifth
        omega
    · refine Nat.le_trans ?_ (Nat.le_max_left _ _)
      rcases Nat.le_total ticks (2 ^ 53) with hfew | hmany
      · rw [intervalUnits_eq hfew] at hcovers
        have hstep := Nat.le_mul_of_pos_left unitsPerOne hfirstpos
        exact (hupper _).2 (lt_succ_mul_of_roundToGrid_le hticks hfew hone h53 hstep hcovers)
      · have hreach : u / unitsPerOne < 2 ^ 53 := (Nat.div_lt_iff_lt_mul hpos).2 h53
        have := Nat.div_le_self (u / unitsPerOne) step
        omega
  · -- the step that covers the interval is beyond the span: fewer than three ticks were wanted
    have hmore : 1 < first := by
      by_contra hle
      have : first = 1 := by omega
      subst this
      omega
    obtain ⟨-, hratio⟩ := hsparse hmore
    have hfew : 2 * ticks / 5 = 0 := by
      have hproduct : 2 * ticks * (first * unitsPerOne) < 5 * (first * unitsPerOne) := by omega
      have := Nat.lt_of_mul_lt_mul_right hproduct
      omega
    constructor
    · rw [hfew, Nat.min_zero]
      exact Nat.max_le.2 ⟨honetick, Nat.zero_le _⟩
    · refine Nat.le_trans ((hupper 2).2 ?_) (Nat.le_max_right _ _)
      obtain ⟨upper, hupper, hlt, hupratio⟩ := hnice.exists_above
      have hbeyond : u < upper * unitsPerOne := by
        by_contra hle
        have := (Step.within_greatest h hone h53 hwithin).2 upper hupper (by omega)
        omega
      have hbound : 2 * (upper * unitsPerOne) ≤ 5 * (step * unitsPerOne) := by
        have := Nat.mul_le_mul_right unitsPerOne hupratio
        rwa [Nat.mul_assoc, Nat.mul_assoc] at this
      omega

end Choice

end NetTimeline.Ruler
