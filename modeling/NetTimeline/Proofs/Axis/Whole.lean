import NetTimeline.Proofs.Axis.Monotone

/-!
# Whole and binary64 spans

A span of whole milliseconds and the binary64 value equal to it lie at the same place, but they are
divided differently: the quotient of whole numbers is rounded once, while a binary64 span is divided
by the rounded number of intervals. Up to `2 ^ 53` intervals are not rounded, so both intervals are
the same; with more of them the span, if it is `2 ^ 53` at most, has ticks that are no more than one
apart either way.

Principal results:

* `Ruler.forSpan_unique` — spans at the same place have the same ruler;
* `Axis.divide_whole` — the axes of a whole span and of its binary64 value are the same.
-/

set_option autoImplicit false

namespace NetTimeline

namespace Ruler

variable {span other : Number} {u ticks step found : Nat}

/-- **Spans at the same place have the same step**, whichever way they are divided. -/
theorem chooseStep_unique (h : span.LiesAt u) (hother : other.LiesAt u)
    (h53 : u ≤ 2 ^ 53 * unitsPerOne) (hticks : 0 < ticks) (hs : chooseStep span ticks = .ok step)
    (hfound : chooseStep other ticks = .ok found) : step = found := by
  rcases Nat.le_total ticks (2 ^ 53) with hfew | hmany
  · apply Nat.le_antisymm
    · exact chooseStep_mono h hother (Nat.le_refl u) hticks (Nat.le_refl _) hfew hs hfound
    · exact chooseStep_mono hother h (Nat.le_refl u) hticks (Nat.le_refl _) hfew hfound hs
  · have hone {a : Number} {s : Nat} (ha : a.LiesAt u) (hchoice : chooseStep a ticks = .ok s) :
        s = 1 :=
      chooseStep_eq_one_of_interval ha (intervalUnits_le_one a h53 hmany) hticks hchoice
    rw [hone h hs, hone hother hfound]

/-- **Spans at the same place have the same ruler.** -/
theorem forSpan_unique {ruler ruler' : Ruler} (h : span.LiesAt u) (hother : other.LiesAt u)
    (h53 : u ≤ 2 ^ 53 * unitsPerOne) (hticks : 0 < ticks) (hruler : forSpan span ticks = .ok ruler)
    (hruler' : forSpan other ticks = .ok ruler') : ruler = ruler' := by
  obtain ⟨hstep, hof⟩ := forSpan_cases h hruler
  obtain ⟨hstep', hof'⟩ := forSpan_cases hother hruler'
  rw [hof, hof', chooseStep_unique h hother h53 hticks hstep hstep']

end Ruler

namespace Axis

variable {span other : Number} {u : Nat} {ticks : Int}

/-- **Spans at the same place, with the same nearest value, have the same axis**, if both can be
divided by the number of intervals. -/
theorem exists_common_axis (h : span.LiesAt u) (hother : other.LiesAt u)
    (h53 : u ≤ 2 ^ 53 * unitsPerOne) {x : Finite64} (hx : span.toBinary64 = .ok (.finite x))
    (hx' : other.toBinary64 = .ok (.finite x)) (hc : span.Converts) (hc' : other.Converts)
    (hticks : 1 ≤ ticks) (hdiv : span.DividesBy ticks.toNat) (hdiv' : other.DividesBy ticks.toNat) :
    ∃ axis, divide span (.number (.int ticks)) = .ok axis ∧
      divide other (.number (.int ticks)) = .ok axis := by
  have hpositive : 0 < ticks.toNat := by omega
  obtain ⟨ruler, hruler⟩ := Ruler.exists_forSpan h hc hpositive hdiv
  obtain ⟨ruler', hruler'⟩ := Ruler.exists_forSpan hother hc' hpositive hdiv'
  obtain rfl := Ruler.forSpan_unique h hother h53 hpositive hruler hruler'
  obtain ⟨axis, haxis⟩ := exists_divide h hc hticks hdiv
  have hsame : divide span (.number (.int ticks)) = divide other (.number (.int ticks)) := by
    rw [divide_of_one_le span hticks, divide_of_one_le other hticks, hruler, hruler',
      Ruler.usableSpan_of_finite h hx, Ruler.usableSpan_of_finite hother hx']
  exact ⟨axis, haxis, hsame ▸ haxis⟩

end Axis

/-- Up to `2 ^ 53` a whole number has a binary64 value at its own place. -/
theorem Binary64.exists_ofInt {n : Nat} (h53 : n ≤ 2 ^ 53) :
    ∃ x, ofInt n = .finite x ∧ (Number.float (.finite x)).LiesAt (n * unitsPerOne) := by
  obtain ⟨x, hx, hunits⟩ := exists_units_ofInt (n := n) h53
  refine ⟨x, hx, congrArg (some ∘ Place.units) ?_⟩
  rw [hunits, Nat.cast_mul]

namespace Axis

/-- **Whole and binary64 spans agree**: up to `2 ^ 53` milliseconds a whole span and its binary64
value both have an axis of any number of intervals that converts, and it is the same axis. -/
theorem divide_whole {span ticks : Int} (hspan : 0 ≤ span) (h53 : span ≤ 2 ^ 53)
    (hone : 1 ≤ ticks) (hticks : ticks < 2 ^ 1023) :
    ∃ axis, divide (.int span) (.number (.int ticks)) = .ok axis ∧
      divide (.float (.ofInt span)) (.number (.int ticks)) = .ok axis := by
  obtain ⟨n, rfl⟩ := Int.eq_ofNat_of_zero_le hspan
  obtain ⟨m, rfl⟩ := Int.eq_ofNat_of_zero_le (Int.le_trans (by decide) hone)
  have hn : n ≤ 2 ^ 53 := by omega
  have hm : m < 2 ^ 1023 := by exact_mod_cast hticks
  obtain ⟨x, hx, hlies⟩ := Binary64.exists_ofInt hn
  have hnearest : (Number.int n).toBinary64 = .ok (.finite x) :=
    Option.elim_eq_ok.2 ⟨x, Binary64.finite?_eq_some.2 hx, rfl⟩
  have hconverts : (Number.int n).Converts := Nat.lt_of_le_of_lt hn pow_lt_wholeBound
  have hdivides : (Number.float (.finite x)).DividesBy m :=
    Nat.lt_trans hm (two_pow_lt_wholeBound (by unfold halfSpacingPlaces; decide))
  rw [hx]
  exact exists_common_axis (.int n) hlies (Nat.mul_le_mul_right _ hn) hnearest rfl hconverts
    trivial hone trivial hdivides

/-- Two milliseconds have three ticks when `2 ^ 53 + 1` intervals are wanted, which is no binary64
value. -/
theorem divide_whole_manyIntervals :
    ∃ axis, divide (.int 2) (.number (.int (2 ^ 53 + 1))) = .ok axis ∧
      divide (.float (.ofInt 2)) (.number (.int (2 ^ 53 + 1))) = .ok axis ∧
      axis.labels = ["0 ms", "1 ms", "2 ms"] := by
  have hlabels : (divide (.int 2) (.number (.int (2 ^ 53 + 1)))).toOption.map labels =
      some ["0 ms", "1 ms", "2 ms"] := by decide +kernel
  have hticks : (2 ^ 53 + 1 : Int) < 2 ^ 1023 := by
    calc (2 ^ 53 + 1 : Int) < 2 ^ 54 := by decide
      _ ≤ 2 ^ 1023 := pow_le_pow_right₀ (by decide) (by decide)
  obtain ⟨axis, hwhole, hfloat⟩ := divide_whole (by decide : 0 ≤ (2 : Int)) (by decide) (by decide) hticks
  rw [hwhole] at hlabels
  exact ⟨axis, hwhole, hfloat, Option.some.inj hlabels⟩

end Axis

end NetTimeline
