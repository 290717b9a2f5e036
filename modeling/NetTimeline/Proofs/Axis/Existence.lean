import NetTimeline.Proofs.Axis.Drawn
import NetTimeline.Proofs.Number.Range

/-!
# Every usable span has an axis

Once the arguments are found usable, all that can go wrong is a number that is too large for its
place. A span that converts keeps every number on the way below `wholeBound`: quotients are not
greater than the span, offsets lie within it or are the lead-in, and the step stays below the
bound even where it is longer than the span, since no multiple of half an hour lies as close to
the bound as the rounding could push it.

Principal results:

* `Ruler.chooseStep_lt_wholeBound` — the step converts, for a span of any size;
* `Axis.exists_divide` — there is an axis for every span that converts, if the number of intervals
  can divide it.
-/

set_option autoImplicit false

namespace NetTimeline

/-! ## The step -/

namespace Step

variable {time : Number} {u : Nat}

theorem exists_quotient (hc : time.Converts) : ∃ quotient, time.div halfHour = .ok quotient :=
  Number.exists_div halfHour_pos hc (time.dividesBy_of_le halfHour_le_pow)

theorem exists_atLeast (h : time.LiesAt u) (hc : time.Converts) :
    ∃ step, atLeast time = .ok step := by
  unfold atLeast
  split
  · rename_i step _
    exact ⟨step, rfl⟩
  · obtain ⟨quotient, hquotient⟩ := exists_quotient hc
    obtain ⟨count, hcount, -⟩ := (quotient_liesAt h hquotient).ceil
    exact ⟨halfHour * count, Except.bind_eq_ok.2
      ⟨quotient, hquotient, Except.bind_eq_ok.2 ⟨count, hcount, rfl⟩⟩⟩

theorem exists_within (h : time.LiesAt u) (hc : time.Converts) :
    ∃ step, within time = .ok step := by
  unfold within
  split
  · obtain ⟨quotient, hquotient⟩ := exists_quotient hc
    have hcount := (quotient_liesAt h hquotient).floor
    exact ⟨_, Except.bind_eq_ok.2 ⟨quotient, hquotient, Except.bind_eq_ok.2 ⟨_, hcount, rfl⟩⟩⟩
  · exact ⟨_, rfl⟩

/-- The bound in spacings of the rounded quotient at the bound: no multiple of half an hour lies in
the half spacing from there on, so the rounded quotient times half an hour stays below it. -/
theorem halfHour_mul_roundToGrid_lt {e : Nat} (hu : u < (2 ^ 54 - 1) * 2 ^ 19 * 2 ^ e) :
    halfHour * roundToGrid u halfHour < (2 ^ 54 - 1) * 2 ^ 19 * 2 ^ e := by
  have hpow : 0 < 2 ^ e := Nat.two_pow_pos e
  rcases Nat.lt_or_ge (u / halfHour) (2 ^ 52 * 2 ^ e) with hbelow | habove
  · have hle : roundToGrid u halfHour ≤ 2 ^ 52 * 2 ^ e := by
      refine roundToGrid_le halfHour_pos (onGrid_mul_pow e (by decide)) ?_
      exact Nat.le_of_lt ((Nat.div_lt_iff_lt_mul halfHour_pos).1 hbelow)
    have := Nat.mul_le_mul_left halfHour hle
    unfold halfHour at *
    omega
  · have hspacing : spacing (u / halfHour) = 2 ^ e := by
      refine spacing_eq habove ((Nat.div_lt_iff_lt_mul halfHour_pos).2 ?_)
      unfold halfHour
      omega
    obtain ⟨-, herror⟩ := roundToGrid_error u halfHour halfHour_pos
    rw [roundToGrid_eq, hspacing] at *
    generalize roundHalfEven u (halfHour * 2 ^ e) = count at *
    have hfew : 2 * (halfHour * count) * 2 ^ e <
        (2 * ((2 ^ 54 - 1) * 2 ^ 19) + halfHour) * 2 ^ e := by
      calc 2 * (halfHour * count) * 2 ^ e = 2 * (count * 2 ^ e * halfHour) := by ring
        _ ≤ 2 * u + halfHour * 2 ^ e := herror
        _ < 2 * ((2 ^ 54 - 1) * 2 ^ 19 * 2 ^ e) + halfHour * 2 ^ e := by omega
        _ = (2 * ((2 ^ 54 - 1) * 2 ^ 19) + halfHour) * 2 ^ e := by ring
    have hnear := Nat.lt_of_mul_lt_mul_right hfew
    have hmultiple : halfHour * count < (2 ^ 54 - 1) * 2 ^ 19 := by
      unfold halfHour at *
      omega
    rw [← Nat.mul_assoc]
    exact Nat.mul_lt_mul_of_pos_right hmultiple hpow

/-- Half an hour times a count that the rounded quotient reaches is below the bound, although it
can be beyond the time itself. -/
theorem halfHour_mul_lt_wholeBound {count : Nat} (hu : u < wholeBound * unitsPerOne)
    (hcount : count * unitsPerOne ≤ roundToGrid u halfHour) : halfHour * count < wholeBound := by
  obtain ⟨e, he⟩ : ∃ e, halfSpacingPlaces + unitPlaces = 19 + e :=
    Nat.exists_eq_add_of_le (by unfold halfSpacingPlaces; omega)
  have hbound : wholeBound * unitsPerOne = (2 ^ 54 - 1) * 2 ^ 19 * 2 ^ e := by
    rw [wholeBound_units, he, Nat.pow_add, Nat.mul_assoc]
  have hproduct : halfHour * count * unitsPerOne < wholeBound * unitsPerOne := by
    rw [hbound] at hu ⊢
    rw [Nat.mul_assoc]
    exact Nat.lt_of_le_of_lt (Nat.mul_le_mul_left _ hcount) (halfHour_mul_roundToGrid_lt hu)
  exact Nat.lt_of_mul_lt_mul_right hproduct

/-- The search from below stays below the bound of the finite values. -/
theorem within_lt_wholeBound {step : Nat} (h : time.LiesAt u) (hc : time.Converts)
    (hs : within time = .ok step) : step < wholeBound := by
  have hsmall {n : Nat} (hn : n ≤ halfHour) : n < wholeBound :=
    Nat.lt_of_le_of_lt (Nat.le_trans hn halfHour_le_pow) pow_lt_wholeBound
  rcases within_cases h hs with
    ⟨-, rfl⟩ | ⟨-, -, hmem, -⟩ | ⟨-, quotient, count, hquotient, hcount, rfl⟩
  · exact hsmall (by decide)
  · exact hsmall (le_halfHour_of_mem hmem)
  · exact halfHour_mul_lt_wholeBound (h.lt_wholeBound hc)
      ((quotient_floor h hquotient hcount _).1 (Nat.le_refl _))

end Step

namespace Ruler

variable {span : Number} {u ticks : Nat}

theorem exists_chooseStep (h : span.LiesAt u) (hc : span.Converts) (hticks : 0 < ticks)
    (hdiv : span.DividesBy ticks) : ∃ step, chooseStep span ticks = .ok step := by
  obtain ⟨interval, hinterval⟩ := Number.exists_div hticks hc hdiv
  obtain ⟨first, hfirst⟩ := Step.exists_atLeast (h.div hticks hinterval) trivial
  obtain ⟨inside, hinside⟩ := Step.exists_within h hc
  have hchoice (overshoots : Bool) :
      ∃ step, (if overshoots then Step.within span else pure first) = Except.ok step := by
    cases overshoots with
    | false => exact ⟨first, rfl⟩
    | true => exact ⟨inside, hinside⟩
  obtain ⟨step, hstep⟩ := hchoice (span.lt (.int first) && Number.lt (.int 0) span)
  exact ⟨step, Except.bind_eq_ok.2 ⟨interval, hinterval,
    Except.bind_eq_ok.2 ⟨first, hfirst, hstep⟩⟩⟩

/-- **The step converts**, whatever the size of the span. -/
theorem chooseStep_lt_wholeBound {step : Nat} (h : span.LiesAt u) (hc : span.Converts)
    (hticks : 0 < ticks) (hs : chooseStep span ticks = .ok step) : step < wholeBound := by
  have hu := h.lt_wholeBound hc
  obtain ⟨interval, first, -, -, -, ⟨rfl, hle | rfl⟩ | ⟨-, -, hwithin⟩⟩ :=
    chooseStep_cases h hticks hs
  · exact Nat.lt_of_mul_lt_mul_right (Nat.lt_of_le_of_lt hle hu)
  · rw [chooseStep_eq_one h unitsPerOne_pos hticks hs]
    exact Nat.lt_trans (by decide) pow_lt_wholeBound
  · exact Step.within_lt_wholeBound h hc hwithin

theorem exists_forSpan (h : span.LiesAt u) (hc : span.Converts) (hticks : 0 < ticks)
    (hdiv : span.DividesBy ticks) : ∃ ruler, forSpan span ticks = .ok ruler := by
  obtain ⟨step, hstep⟩ := exists_chooseStep h hc hticks hdiv
  exact ⟨_, Except.bind_eq_ok.2 ⟨step, hstep, Except.bind_eq_ok.2 ⟨_, h.floor, rfl⟩⟩⟩

/-- The offsets of a ruler are below the bound: they lie within the span, or are the lead-in. -/
theorem offset_lt_wholeBound {ruler : Ruler} {offset : Nat} (h : span.LiesAt u)
    (hc : span.Converts) (hticks : 0 < ticks) (hruler : forSpan span ticks = .ok ruler)
    (hmem : offset ∈ ruler.offsets) : offset < wholeBound := by
  obtain ⟨hstep, hof⟩ := forSpan_cases h hruler
  rw [hof, mem_ofStep (chooseStep_nice h hticks hstep).pos] at hmem
  rcases hmem with ⟨-, hle⟩ | ⟨-, rfl⟩
  · have hinside := (Nat.le_div_iff_mul_le unitsPerOne_pos).1 hle
    exact Nat.lt_of_mul_lt_mul_right (Nat.lt_of_le_of_lt hinside (h.lt_wholeBound hc))
  · exact Nat.lt_trans (by decide) pow_lt_wholeBound

theorem usableSpan_of_finite {x : Finite64} (h : span.LiesAt u)
    (hx : span.toBinary64 = .ok (.finite x)) : usableSpan span = .ok x := by
  have hnonnegative : span.lt (.int 0) = false := by
    rw [Bool.eq_false_iff, Ne, show (0 : Int) = (0 : Nat) from rfl, h.lt_int]
    omega
  refine Except.bind_eq_ok.2 ⟨.finite x, ofNumber_eq_ok.2 hx, ?_⟩
  rw [hnonnegative]

/-- A usable span that converts has a nearest binary64 value. -/
theorem exists_usableSpan (h : span.LiesAt u) (hc : span.Converts) :
    ∃ extent, usableSpan span = .ok extent := by
  obtain ⟨x, hx⟩ : ∃ x, span.toBinary64 = .ok (.finite x) := by
    cases span with
    | int n =>
      obtain ⟨value, hvalue⟩ := Number.exists_toBinary64 hc
      obtain ⟨x, -, hx⟩ := Option.elim_eq_ok.1 hvalue
      exact ⟨x, hvalue.trans hx.symm⟩
    | float value =>
      obtain ⟨x, rfl, -, -⟩ := h.eq_float
      exact ⟨x, rfl⟩
  exact ⟨x, usableSpan_of_finite h hx⟩

end Ruler

/-! ## The labels and the fields -/

theorem AxisError.exists_field (name : String) {n : Nat} (h : n < wholeBound) :
    ∃ x, AxisError.field name n = .ok x := by
  obtain ⟨x, hx⟩ := Number.exists_toBinary64 (a := .int n) h
  obtain ⟨y, hy, -⟩ := Option.elim_eq_ok.1 hx
  exact ⟨y, Option.elim_eq_ok.2 ⟨y, hy, rfl⟩⟩

theorem Scale.exists_label (scale : Scale) {offset : Nat} (h : offset < wholeBound) :
    ∃ label, scale.label (.int offset) = .ok label := by
  have hquotient {n : Nat} (hn : 0 < n) : ∃ q, (Number.int offset).div n = .ok q :=
    Number.exists_div hn h trivial
  cases scale with
  | millisecond =>
    obtain ⟨numeral, hnumeral⟩ := Number.exists_text (a := .int offset) h
    exact ⟨_, Except.bind_eq_ok.2 ⟨_, rfl, Except.bind_eq_ok.2 ⟨numeral, hnumeral, rfl⟩⟩⟩
  | second =>
    obtain ⟨q, hq⟩ := hquotient (by decide : 0 < Scale.second.milliseconds)
    exact ⟨_, Except.bind_eq_ok.2 ⟨q, hq, rfl⟩⟩
  | minute =>
    obtain ⟨q, hq⟩ := hquotient (by decide : 0 < Scale.minute.milliseconds)
    exact ⟨_, Except.bind_eq_ok.2 ⟨q, hq, rfl⟩⟩

theorem Division.exists_ofOffset {offset : Nat} (h : offset < wholeBound) :
    ∃ division, Division.ofOffset offset = .ok division := by
  obtain ⟨label, hlabel⟩ := Scale.exists_label (Scale.forTime (.int offset)) h
  obtain ⟨place, hplace⟩ := AxisError.exists_field "offset_ms" h
  exact ⟨_, Except.bind_eq_ok.2 ⟨label, Ruler.ofNumber_eq_ok.2 hlabel,
    Except.bind_eq_ok.2 ⟨place, hplace, rfl⟩⟩⟩

namespace Axis

theorem exists_ofRuler (extent : Finite64) {ruler : Ruler} (hstep : ruler.step < wholeBound)
    (hoffsets : ∀ offset ∈ ruler.offsets, offset < wholeBound) :
    ∃ axis, ofRuler extent ruler = .ok axis := by
  obtain ⟨divisions, hdivisions⟩ :=
    List.exists_mapM_eq_ok fun offset hmem => Division.exists_ofOffset (hoffsets offset hmem)
  obtain ⟨step, hfield⟩ := AxisError.exists_field "step_ms" hstep
  exact ⟨_, Except.bind_eq_ok.2 ⟨divisions, hdivisions,
    Except.bind_eq_ok.2 ⟨step, hfield, rfl⟩⟩⟩

/-- **There is an axis for every usable span that converts**, if the number of intervals can
divide it. -/
theorem exists_divide {span : Number} {u : Nat} {ticks : Int} (h : span.LiesAt u)
    (hc : span.Converts) (hticks : 1 ≤ ticks) (hdiv : span.DividesBy ticks.toNat) :
    ∃ axis, divide span (.number (.int ticks)) = .ok axis := by
  have hpositive : 0 < ticks.toNat := by omega
  obtain ⟨extent, hextent⟩ := Ruler.exists_usableSpan h hc
  obtain ⟨ruler, hruler⟩ := Ruler.exists_forSpan h hc hpositive hdiv
  obtain ⟨hstep, -⟩ := Ruler.forSpan_cases h hruler
  obtain ⟨axis, haxis⟩ := exists_ofRuler extent (Ruler.chooseStep_lt_wholeBound h hc hpositive hstep)
    fun offset hmem => Ruler.offset_lt_wholeBound h hc hpositive hruler hmem
  refine ⟨axis, Except.bind_eq_ok.2 ⟨_, Ruler.wantedTicks_ok hticks, ?_⟩⟩
  exact Except.bind_eq_ok.2 ⟨extent, hextent,
    Except.bind_eq_ok.2 ⟨ruler, Ruler.ofNumber_eq_ok.2 hruler, haxis⟩⟩

end Axis

end NetTimeline
