import NetTimeline.Proofs.Axis.Drawn

/-!
# The tick past zero

The step of an axis is within a span of one or more, and the axis has a tick one step from zero,
with one exception. Past the table both searches for a step divide by half an hour and round the
quotient; just short of a multiple of half an hour the rounded quotient can reach the multiple.
The step is then longer than the span, and the axis shows nothing but zero and the lead-in.
`Step.Overshoots` is the condition on the span.

Two intervals or more rule the exception out: the interval is then at most half an hour times a
power of two that the span still holds, and such a product is not rounded.

Principal results:

* `Ruler.chooseStep_le_iff` — the step is within the span, unless one interval is wanted and the
  span is overshot;
* `Step.not_overshoots_below` — no span below `2 ^ 53` is overshot;
* `Axis.tick_past_zero_iff` — the same for the step and the ticks of an axis.
-/

set_option autoImplicit false

namespace NetTimeline

namespace Step

variable {span : Number} {u step : Nat}

/-- The span is short of a multiple of half an hour, but its quotient by half an hour is rounded
to the multiple or beyond; and the quotient of the interval, which is the span rounded, comes out
above the multiple before. -/
def Overshoots (span : Number) : Prop :=
  ∃ (count : Nat) (interval quotient coarse : Binary64),
    span.lt (.int (halfHour * (count + 1) : Nat)) = true ∧
    span.div halfHour = .ok quotient ∧
    Number.le (.int (count + 1 : Nat)) (.float quotient) = true ∧
    span.div 1 = .ok interval ∧
    (Number.float interval).div halfHour = .ok coarse ∧
    Number.lt (.int count) (.float coarse) = true

/-- **Below `2 ^ 53` no span is overshot.** -/
theorem not_overshoots_below (h : span.LiesAt u) (hone : unitsPerOne ≤ u)
    (h53 : u < 2 ^ 53 * unitsPerOne) : ¬ Overshoots span := by
  rintro ⟨count, -, quotient, -, hshort, hquotient, hreaches, -⟩
  rw [h.lt_int] at hshort
  rw [(quotient_liesAt h hquotient).int_le,
    mul_le_roundToGrid_iff halfHour_pos halfHour_le_pow (h.onGrid h53) hone h53,
    show (count + 1) * unitsPerOne * halfHour = halfHour * (count + 1) * unitsPerOne by ring]
    at hreaches
  omega

/-- Two counts of half hours that both pass the span, one of each search. -/
theorem overshoots_of_counts {v : Nat} {interval quotient coarse : Binary64} {count above : Int}
    (h : span.LiesAt u) (hquotient : span.div halfHour = .ok quotient)
    (hcount : quotient.floor = .ok count) (hbeyond : u < halfHour * count.toNat * unitsPerOne)
    (hinterval : span.div 1 = .ok interval) (hlies : (Number.float interval).LiesAt v)
    (hcoarse : (Number.float interval).div halfHour = .ok coarse)
    (habove : coarse.ceil = .ok above) (hover : u < halfHour * above.toNat * unitsPerOne) :
    Overshoots span := by
  have hcounts {c : Nat} (hc : u < halfHour * c * unitsPerOne) : ∃ k, c = k + 1 := by
    apply Nat.exists_eq_succ_of_ne_zero
    intro hzero
    rw [hzero, Nat.mul_zero, Nat.zero_mul] at hc
    omega
  obtain ⟨m, hm⟩ := hcounts hbeyond
  obtain ⟨n, hn⟩ := hcounts hover
  rw [hm] at hbeyond
  rw [hn] at hover
  -- the smaller of the two counts is one that both quotients reach
  obtain ⟨k, hshort, hbelow, hfar⟩ :
      ∃ k, u < halfHour * (k + 1) * unitsPerOne ∧ k + 1 ≤ count.toNat ∧ k < above.toNat := by
    rcases Nat.le_total count.toNat above.toNat with hle | hle
    · exact ⟨m, hbeyond, by omega, by omega⟩
    · exact ⟨n, hover, by omega, by omega⟩
  refine ⟨k, interval, quotient, coarse, (h.lt_int _).2 hshort, hquotient, ?_, hinterval,
    hcoarse, ?_⟩
  · rw [(quotient_liesAt h hquotient).int_le]
    exact (quotient_floor h hquotient hcount _).1 hbelow
  · rw [(quotient_liesAt hlies hcoarse).int_lt, ← Nat.not_le,
      ← quotient_ceil hlies hcoarse habove]
    exact Nat.not_le.2 hfar

end Step

namespace Ruler

variable {span : Number} {u ticks step : Nat}

/-! ## Two intervals or more -/

theorem exists_two_pow_mul {c u : Nat} (hc : 0 < c) (hle : c ≤ u) :
    ∃ places, 2 ^ places * c ≤ u ∧ u < 2 * (2 ^ places * c) := by
  have hquotient : u / c ≠ 0 := by
    have := (Nat.le_div_iff_mul_le hc).2 (by rwa [Nat.one_mul] : 1 * c ≤ u)
    omega
  refine ⟨(u / c).log2, (Nat.le_div_iff_mul_le hc).1 (Nat.log2_self_le hquotient), ?_⟩
  have := (Nat.div_lt_iff_lt_mul hc).1 (Nat.lt_log2_self (n := u / c))
  rwa [Nat.pow_succ, Nat.mul_comm _ 2, Nat.mul_assoc] at this

/-- With two intervals or more, half an hour times the rounded quotient is within the span. -/
theorem halfHour_mul_ceil_le {interval coarse : Binary64} {above : Int} (hticks : 2 ≤ ticks)
    (hpast : Step.halfHour * unitsPerOne ≤ u)
    (hlies : (Number.float interval).LiesAt (intervalUnits span u ticks))
    (hcoarse : (Number.float interval).div Step.halfHour = .ok coarse)
    (habove : coarse.ceil = .ok above) : Step.halfHour * above.toNat * unitsPerOne ≤ u := by
  have hpos : 0 < Step.halfHour * unitsPerOne := Nat.mul_pos Step.halfHour_pos unitsPerOne_pos
  obtain ⟨places, hbelow, hdouble⟩ := exists_two_pow_mul hpos hpast
  have hinterval : intervalUnits span u ticks ≤ Step.halfHour * 2 ^ places * unitsPerOne := by
    refine intervalUnits_le (by omega) (onGrid_mul_two_pow places Step.halfHour_le_pow) ?_
    have hdivisor := Number.le_divisorUnits span (by decide : 2 ≤ 2 ^ 53) hticks
    calc u * unitsPerOne ≤ 2 * (2 ^ places * (Step.halfHour * unitsPerOne)) * unitsPerOne :=
          Nat.mul_le_mul_right _ (Nat.le_of_lt hdouble)
      _ = Step.halfHour * 2 ^ places * unitsPerOne * (2 * unitsPerOne) := by ring
      _ ≤ Step.halfHour * 2 ^ places * unitsPerOne * span.divisorUnits ticks :=
          Nat.mul_le_mul_left _ hdivisor
  have hcount : above.toNat ≤ 2 ^ places := by
    rw [Step.quotient_ceil hlies hcoarse habove]
    have hpow : OnGrid (2 ^ places * unitsPerOne) := by
      have := onGrid_mul_two_pow places (by decide : 1 ≤ 2 ^ 53)
      rwa [Nat.one_mul] at this
    refine roundToGrid_le Step.halfHour_pos hpow (Nat.le_trans hinterval ?_)
    exact Nat.le_of_eq (by ring)
  calc Step.halfHour * above.toNat * unitsPerOne
      ≤ Step.halfHour * 2 ^ places * unitsPerOne :=
        Nat.mul_le_mul_right _ (Nat.mul_le_mul_left _ hcount)
    _ = 2 ^ places * (Step.halfHour * unitsPerOne) := by ring
    _ ≤ u := hbelow

/-! ## When the step is beyond the span -/

/-- A step beyond the span is a multiple of half an hour, and both searches went past it. -/
theorem overshoots_of_lt (h : span.LiesAt u) (hone : unitsPerOne ≤ u) (hticks : 0 < ticks)
    (hs : chooseStep span ticks = .ok step) (hbeyond : u < step * unitsPerOne) :
    Step.halfHour ≤ step ∧ ticks = 1 ∧ Step.Overshoots span := by
  obtain ⟨interval, first, hinterval, hlies, hfirst, ⟨rfl, hle⟩ | ⟨-, hover, hwithin⟩⟩ :=
    chooseStep_cases h hticks hs
  · have := unitsPerOne_pos
    omega
  rcases Step.within_cases h hwithin with
    ⟨hlt, -⟩ | ⟨-, -, -, hle, -⟩ | ⟨hpast, quotient, count, hquotient, hcount, rfl⟩
  · omega
  · omega
  rcases Step.atLeast_cases hlies hfirst with
    ⟨-, hmem, -⟩ | ⟨-, coarse, above, hcoarse, habove, rfl⟩
  · have := Nat.mul_le_mul_right unitsPerOne (Step.le_halfHour_of_mem hmem)
    omega
  · have hsingle : ticks = 1 := by
      by_contra hmore
      have := halfHour_mul_ceil_le (by omega) hpast hlies hcoarse habove
      omega
    subst hsingle
    have hpositive : 0 < count.toNat := by
      apply Nat.pos_of_ne_zero
      intro hzero
      rw [hzero, Nat.mul_zero, Nat.zero_mul] at hbeyond
      omega
    exact ⟨Nat.le_mul_of_pos_right _ hpositive, rfl,
      Step.overshoots_of_counts h hquotient hcount hbeyond hinterval hlies hcoarse habove hover⟩

theorem lt_of_overshoots (h : span.LiesAt u) (hone : unitsPerOne ≤ u)
    (hs : chooseStep span 1 = .ok step) (hover : Step.Overshoots span) :
    u < step * unitsPerOne := by
  have hlarge : 2 ^ 53 * unitsPerOne ≤ u :=
    Nat.not_lt.1 fun h53 => Step.not_overshoots_below h hone h53 hover
  have hpast : Step.halfHour * unitsPerOne < u :=
    Nat.lt_of_lt_of_le Step.halfHour_units_lt hlarge
  obtain ⟨k, interval, quotient, coarse, hshort, hquotient, hreaches, hinterval, hcoarse,
    hcoarser⟩ := hover
  rw [h.lt_int] at hshort
  have hbeyond {c : Nat} (hc : k + 1 ≤ c) : u < Step.halfHour * c * unitsPerOne :=
    Nat.lt_of_lt_of_le hshort (Nat.mul_le_mul_right _ (Nat.mul_le_mul_left _ hc))
  obtain ⟨i, first, hi, hlies, hfirst, ⟨rfl, hle⟩ | ⟨-, -, hwithin⟩⟩ :=
    chooseStep_cases h (by decide) hs
  · obtain rfl : i = interval := Except.ok.inj (hi.symm.trans hinterval)
    rw [(Step.quotient_liesAt hlies hcoarse).int_lt] at hcoarser
    rcases Step.atLeast_cases hlies hfirst with
      ⟨hnear, -⟩ | ⟨-, q, above, hq, habove, rfl⟩
    · rw [intervalUnits_eq (by decide)] at hnear
      have hfar : 2 ^ 53 * unitsPerOne ≤ roundToGrid u 1 :=
        le_roundToGrid (by decide) (onGrid_mul_unitsPerOne (Nat.le_refl _)) (by omega)
      have := Step.halfHour_units_lt
      omega
    · obtain rfl : q = coarse := Except.ok.inj (hq.symm.trans hcoarse)
      apply hbeyond
      by_contra hle
      have := (Step.quotient_ceil hlies hcoarse habove k).1 (by omega)
      omega
  · rw [(Step.quotient_liesAt h hquotient).int_le] at hreaches
    rcases Step.within_cases h hwithin with
      ⟨hlt, -⟩ | ⟨-, hlt, -⟩ | ⟨-, q, count, hq, hcount, rfl⟩
    · omega
    · omega
    · obtain rfl : q = quotient := Except.ok.inj (hq.symm.trans hquotient)
      exact hbeyond ((Step.quotient_floor h hquotient hcount _).2 hreaches)

/-- **The step is within a span of one or more**, unless one interval is wanted and the span is
overshot. -/
theorem chooseStep_le_iff (h : span.LiesAt u) (hone : unitsPerOne ≤ u) (hticks : 0 < ticks)
    (hs : chooseStep span ticks = .ok step) :
    step * unitsPerOne ≤ u ↔ ¬ (ticks = 1 ∧ Step.Overshoots span) := by
  constructor
  · rintro hle ⟨rfl, hover⟩
    have := lt_of_overshoots h hone hs hover
    omega
  · intro hnot
    by_contra hbeyond
    exact hnot (overshoots_of_lt h hone hticks hs (by omega)).2

/-! ## The ruler and the axis -/

/-- The step of a ruler is one of its offsets if the span reaches it; it is never the lead-in. -/
theorem mem_offsets_iff {ruler : Ruler} (hpos : 0 < ruler.step)
    (hof : ruler = ofStep ruler.step (u / unitsPerOne)) :
    ruler.step ∈ ruler.offsets ↔ ruler.step * unitsPerOne ≤ u := by
  have hmem : ruler.step ∈ ruler.offsets ↔
      ruler.step ∈ (ofStep ruler.step (u / unitsPerOne)).offsets := by rw [← hof]
  rw [hmem, mem_ofStep hpos, ← Nat.le_div_iff_mul_le unitsPerOne_pos]
  constructor
  · rintro (⟨-, hle⟩ | ⟨hminute, hlead⟩)
    · exact hle
    · rw [leadIn] at hlead
      omega
  · intro hle
    exact Or.inl ⟨⟨1, (Nat.one_mul _).symm⟩, hle⟩

/-- A ruler with a step beyond the span shows zero and the lead-in at most. -/
theorem le_leadIn_of_beyond {ruler : Ruler} {offset : Nat}
    (hof : ruler = ofStep ruler.step (u / unitsPerOne)) (hbeyond : u < ruler.step * unitsPerOne)
    (hmem : offset ∈ ruler.offsets) : offset = 0 ∨ offset = leadIn := by
  have hreach : u / unitsPerOne < ruler.step := (Nat.div_lt_iff_lt_mul unitsPerOne_pos).2 hbeyond
  rw [hof, mem_ofStep (Nat.zero_lt_of_lt hreach)] at hmem
  rcases hmem with ⟨⟨k, rfl⟩, hle⟩ | ⟨-, hlead⟩
  · left
    have hk : k < 1 := Nat.lt_of_mul_lt_mul_right (a := ruler.step) (by omega)
    rw [Nat.lt_one_iff.1 hk, Nat.zero_mul]
  · exact Or.inr hlead

end Ruler

namespace Axis

/-- **The step of an axis is within a span of one or more, it is one of the offsets, and a division
stands there**, unless one interval is wanted and the span is overshot. -/
theorem tick_past_zero_iff {span : Number} {ticks : Int} {axis : Axis}
    (hone : Number.le (.int 1) span = true) (h : divide span (.number (.int ticks)) = .ok axis) :
    ∃ ruler, Ruler.forSpan span ticks.toNat = .ok ruler ∧ ofRuler axis.span ruler = .ok axis ∧
      (Number.le (.int ruler.step) span = true ↔ ¬ (ticks = 1 ∧ Step.Overshoots span)) ∧
      (ruler.step ∈ ruler.offsets ↔ ¬ (ticks = 1 ∧ Step.Overshoots span)) ∧
      ((∃ division ∈ axis.divisions, division.offset = axis.step) ↔
        ¬ (ticks = 1 ∧ Step.Overshoots span)) := by
  obtain ⟨hticks, u, ruler, hu, hruler, hdrawn⟩ := divide_cases h
  obtain ⟨hstep, hof⟩ := Ruler.forSpan_cases hu hruler
  have hunit : unitsPerOne ≤ u := hu.one_le.1 hone
  have hsingle : ticks.toNat = 1 ↔ ticks = 1 := by omega
  have hle := Ruler.chooseStep_le_iff hu hunit (by omega) hstep
  rw [hsingle] at hle
  have hpos := (Ruler.chooseStep_nice hu (by omega) hstep).pos
  have hmem := Ruler.mem_offsets_iff hpos hof
  refine ⟨ruler, hruler, hdrawn, (hu.int_le _).trans hle, hmem.trans hle, ?_⟩
  rw [exists_offset_iff hdrawn, ← hle]
  have hfield := (ofRuler_cases hdrawn).2.1
  constructor
  · rintro ⟨offset, hoffset, hplace⟩
    by_contra hbeyond
    have hlong : Step.halfHour ≤ ruler.step :=
      (Ruler.overshoots_of_lt hu hunit (by omega) hstep (by omega)).1
    have hshort : offset ≤ Ruler.leadIn := by
      rcases Ruler.le_leadIn_of_beyond hof (by omega) hoffset with rfl | rfl
      · exact Nat.zero_le _
      · exact Nat.le_refl _
    -- the two offsets stay apart when they are rounded into the fields
    have hoffsetfield : AxisError.field "offset_ms" offset = .ok axis.step :=
      AxisError.field_eq_ok.2 hplace
    have hnear := AxisError.units_of_field hoffsetfield (Nat.le_trans hshort (by decide))
    have hfar := AxisError.units_eq_of_field hfield
    have hrounded : Step.halfHour * unitsPerOne ≤ roundToGrid (ruler.step * unitsPerOne) 1 := by
      refine le_roundToGrid (by decide) (onGrid_mul_unitsPerOne Step.halfHour_le_pow) ?_
      rw [Nat.mul_one]
      exact Nat.mul_le_mul_right _ hlong
    have hgap : offset * unitsPerOne < Step.halfHour * unitsPerOne :=
      Nat.mul_lt_mul_of_pos_right (Nat.lt_of_le_of_lt hshort (by decide)) unitsPerOne_pos
    omega
  · intro hinside
    exact ⟨ruler.step, hmem.2 hinside, AxisError.field_eq_ok.1 hfield⟩

/-- One millisecond short of `2 ^ 33 + 1` times half an hour: the quotient is rounded to the whole
number, the step is one millisecond longer than the span, and no division stands there. -/
theorem tick_past_zero_iff_overshot :
    ∃ axis, divide (.int 15461882267399999) (.number (.int 1)) = .ok axis ∧
      Step.Overshoots (.int 15461882267399999) ∧
      ¬ ∃ division ∈ axis.divisions, division.offset = axis.step := by
  obtain ⟨axis, haxis⟩ := Except.exists_of_isOk
    (by decide +kernel : (divide (.int 15461882267399999) (.number (.int 1))).isOk = true)
  obtain ⟨ruler, hruler, -, hinside, -, hdivision⟩ :=
    tick_past_zero_iff (by decide +kernel) haxis
  have hknown : Ruler.forSpan (.int 15461882267399999) (1 : Int).toNat =
      .ok ⟨15461882267400000, [0, 30000]⟩ := by decide +kernel
  obtain rfl := Except.ok.inj (hruler.symm.trans hknown)
  have hover : Step.Overshoots (.int 15461882267399999) := by
    by_contra hnot
    have := hinside.2 fun hboth => hnot hboth.2
    revert this
    decide +kernel
  exact ⟨axis, haxis, hover, fun hplace => hdivision.1 hplace ⟨rfl, hover⟩⟩

end Axis

end NetTimeline
