import NetTimeline.Proofs.Axis.Drawn

/-!
# The laws of an axis

For a span below `2 ^ 53` whose axis is returned; such a span is neither negative nor a NaN, and at
least one interval was asked for.

Principal results:

* `divide_shape` — the loop over the ticks ends, the step is nice, and the offsets are the
  multiples of the step within the span, with the lead-in if the step is in minutes;
* `covers_scales` — seconds are shown exactly from a second on, minutes exactly from a minute on;
* `regularTicks_bounds` — how many positive multiples of the step the axis shows.
-/

set_option autoImplicit false

namespace NetTimeline

/-! ## What a ruler covers -/

namespace Scale

theorem forTime_eq_second {offset : Nat} :
    forTime (.int offset) = .second ↔ 1000 ≤ offset ∧ offset < 60000 := by
  rw [forTime_int]
  split
  · simp; omega
  · split
    · simp; omega
    · simp; omega

theorem forTime_eq_minute {offset : Nat} : forTime (.int offset) = .minute ↔ 60000 ≤ offset := by
  rw [forTime_int]
  split
  · simp; omega
  · split
    · simp; omega
    · simp; omega

end Scale

namespace Ruler.Shape

variable {ruler : Ruler} {span : Number} {u : Nat}

theorem mul_mem (hshape : ruler.Shape span) (h : span.LiesAt u) (k : Nat)
    (hle : k * ruler.step * unitsPerOne ≤ u) : k * ruler.step ∈ ruler.offsets :=
  (hshape.mem_iff _).2 (Or.inl ⟨⟨k, rfl⟩, (h.int_le _).2 hle⟩)

/-- A mark that the step divides is on the ruler as soon as the span reaches it. -/
theorem mem_of_dvd (hshape : ruler.Shape span) (h : span.LiesAt u) {mark : Nat}
    (hdvd : ruler.step ∣ mark) (hle : mark * unitsPerOne ≤ u) : mark ∈ ruler.offsets := by
  obtain ⟨k, rfl⟩ := hdvd
  rw [Nat.mul_comm ruler.step k] at hle ⊢
  exact hshape.mul_mem h k hle

theorem step_mem (hshape : ruler.Shape span) (h : span.LiesAt u)
    (hinside : ruler.step * unitsPerOne ≤ u) : ruler.step ∈ ruler.offsets := by
  have := hshape.mul_mem h 1 (by rwa [Nat.one_mul])
  rwa [Nat.one_mul] at this

theorem exists_second_iff (hshape : ruler.Shape span) (h : span.LiesAt u)
    (hinside : unitsPerOne ≤ u → ruler.step * unitsPerOne ≤ u) :
    (∃ offset ∈ ruler.offsets, Scale.forTime (.int offset) = .second) ↔
      1000 * unitsPerOne ≤ u := by
  constructor
  · rintro ⟨offset, hmem, hunit⟩
    have hle := (h.int_le offset).1 (hshape.within offset hmem)
    have hmark := Nat.mul_le_mul_right unitsPerOne (Scale.forTime_eq_second.1 hunit).1
    omega
  · intro hreach
    -- a small step has a tick at one second, a minute step the lead-in, any other step itself
    rcases Nat.lt_or_ge ruler.step 1000 with hsmall | hsecond
    · refine ⟨1000, hshape.mem_of_dvd h (hshape.nice.dvd_of_lt.1 hsmall) hreach, ?_⟩
      exact Scale.forTime_eq_second.2 (by decide)
    · rcases Nat.lt_or_ge ruler.step 60000 with hmiddle | hminute
      · exact ⟨ruler.step, hshape.step_mem h (hinside (by omega)),
          Scale.forTime_eq_second.2 ⟨hsecond, hmiddle⟩⟩
      · exact ⟨leadIn, (hshape.mem_iff _).2 (Or.inr ⟨hminute, rfl⟩),
          Scale.forTime_eq_second.2 (by decide)⟩

theorem exists_minute_iff (hshape : ruler.Shape span) (h : span.LiesAt u)
    (hinside : unitsPerOne ≤ u → ruler.step * unitsPerOne ≤ u) :
    (∃ offset ∈ ruler.offsets, Scale.forTime (.int offset) = .minute) ↔
      60000 * unitsPerOne ≤ u := by
  constructor
  · rintro ⟨offset, hmem, hunit⟩
    have hle := (h.int_le offset).1 (hshape.within offset hmem)
    have hmark := Nat.mul_le_mul_right unitsPerOne (Scale.forTime_eq_minute.1 hunit)
    omega
  · intro hreach
    rcases Nat.lt_or_ge ruler.step 60000 with hsmall | hminute
    · exact ⟨60000, hshape.mem_of_dvd h (hshape.nice.dvd_of_lt.2 hsmall) hreach,
        Scale.forTime_eq_minute.2 (Nat.le_refl _)⟩
    · exact ⟨ruler.step, hshape.step_mem h (hinside (by omega)),
        Scale.forTime_eq_minute.2 hminute⟩

end Ruler.Shape

/-! ## The axis -/

namespace Axis

variable {axis : Axis} {ruler : Ruler} {span : Number} {u : Nat} {ticks : Int}

theorem Draws.exists_unit_iff (hdraws : axis.Draws ruler) (scale : Scale) :
    (∃ division ∈ axis.divisions, division.unit = scale) ↔
      ∃ offset ∈ ruler.offsets, Scale.forTime (.int offset) = scale := by
  have hmem : scale ∈ axis.divisions.map Division.unit ↔
      scale ∈ ruler.offsets.map fun offset : Nat => Scale.forTime (.int offset) := by
    rw [hdraws.units]
  simpa only [List.mem_map] using hmem

/-- The divisions at the positive whole multiples of the step; the lead-in is none of them. -/
def regularTicks (axis : Axis) : List Division :=
  axis.divisions.filter fun division =>
    decide (0 < division.offset.units ∧ axis.step.units ∣ division.offset.units)

/-- Positive multiples are counted in units as in whole numbers. -/
theorem countP_map_mul {c : Nat} (hc : 0 < c) (step : Nat) (offsets : List Nat) :
    (offsets.map fun offset : Nat => ((offset * c : Nat) : Int)).countP
        (fun place => decide (0 < place ∧ ((step * c : Nat) : Int) ∣ place)) =
      offsets.countP fun offset => decide (0 < offset ∧ step ∣ offset) := by
  rw [List.countP_map]
  apply List.countP_congr
  intro offset _
  have hdvd : ((step * c : Nat) : Int) ∣ ((offset * c : Nat) : Int) ↔ step ∣ offset := by
    rw [Int.natCast_dvd_natCast, Nat.mul_dvd_mul_iff_right hc]
  have hpositive : (0 : Int) < ((offset * c : Nat) : Int) ↔ 0 < offset := by
    rw [Int.natCast_pos]
    exact Nat.mul_pos_iff_of_pos_right hc
  simp only [Function.comp_apply, decide_eq_true_eq, hdvd, hpositive]

theorem Draws.length_regularTicks (hdraws : axis.Draws ruler) :
    axis.regularTicks.length =
      ruler.offsets.countP (fun offset => decide (0 < offset ∧ ruler.step ∣ offset)) := by
  have hcount : axis.regularTicks.length =
      (axis.divisions.map fun division => division.offset.units).countP
        (fun place => decide (0 < place ∧ axis.step.units ∣ place)) := by
    rw [regularTicks, ← List.countP_eq_length_filter, List.countP_map]
    rfl
  rw [hcount, hdraws.offsets, hdraws.step]
  exact countP_map_mul unitsPerOne_pos ruler.step ruler.offsets

/-- Below `2 ^ 53` an axis that is returned draws a ruler of the right shape. -/
theorem divide_cases_below (hspan : span.lt (.int (2 ^ 53 : Nat)) = true)
    (h : divide span (.number (.int ticks)) = .ok axis) :
    ∃ u ruler, span.LiesAt u ∧ u < 2 ^ 53 * unitsPerOne ∧ 0 < ticks.toNat ∧
      Ruler.forSpan span ticks.toNat = .ok ruler ∧
      Ruler.chooseStep span ticks.toNat = .ok ruler.step ∧
      ruler = Ruler.ofStep ruler.step (u / unitsPerOne) ∧
      ruler.Shape span ∧ axis.Draws ruler ∧
      (unitsPerOne ≤ u → ruler.step * unitsPerOne ≤ u) := by
  obtain ⟨hticks, u, ruler, hu, hruler, hdrawn⟩ := divide_cases h
  have hpositive : 0 < ticks.toNat := by omega
  have h53 : u < 2 ^ 53 * unitsPerOne := (hu.lt_int _).1 hspan
  obtain ⟨hstep, hof⟩ := Ruler.forSpan_cases hu hruler
  have hnice := Ruler.chooseStep_nice hu hpositive hstep
  have hinside (hone : unitsPerOne ≤ u) : ruler.step * unitsPerOne ≤ u :=
    Ruler.chooseStep_le hu hone h53 hpositive hstep
  have hshape : ruler.Shape span := by
    rw [hof]
    apply Ruler.ofStep_shape hu hnice
    intro hminute
    rcases Nat.lt_or_ge u unitsPerOne with hlt | hge
    · have := Ruler.chooseStep_eq_one hu hlt hpositive hstep
      omega
    · exact hinside hge
  have hsmall {m : Nat} (hm : m * unitsPerOne ≤ u) : m ≤ 2 ^ 53 := by
    have : m * unitsPerOne < 2 ^ 53 * unitsPerOne := by omega
    exact Nat.le_of_lt (Nat.lt_of_mul_lt_mul_right this)
  have hdraws : axis.Draws ruler := by
    refine draws_of_ofRuler hdrawn ?_ fun offset hmem => ?_
    · rcases Nat.lt_or_ge u unitsPerOne with hlt | hge
      · rw [Ruler.chooseStep_eq_one hu hlt hpositive hstep]
        decide
      · exact hsmall (hinside hge)
    · exact hsmall ((hu.int_le offset).1 (hshape.within offset hmem))
  exact ⟨u, ruler, hu, h53, hpositive, hruler, hstep, hof, hshape, hdraws, hinside⟩

/-- **Seconds are shown exactly from a second on, minutes exactly from a minute on.** -/
theorem covers_scales (hspan : span.lt (.int (2 ^ 53 : Nat)) = true)
    (h : divide span (.number (.int ticks)) = .ok axis) :
    ((∃ division ∈ axis.divisions, division.unit = .second) ↔
      Number.le (.int 1000) span = true) ∧
    ((∃ division ∈ axis.divisions, division.unit = .minute) ↔
      Number.le (.int 60000) span = true) := by
  obtain ⟨u, ruler, hu, -, -, -, -, -, hshape, hdraws, hinside⟩ := divide_cases_below hspan h
  constructor
  · rw [hdraws.exists_unit_iff, hshape.exists_second_iff hu hinside]
    exact (hu.int_le 1000).symm
  · rw [hdraws.exists_unit_iff, hshape.exists_minute_iff hu hinside]
    exact (hu.int_le 60000).symm

/-- The one step that covers 125 seconds is five minutes; two minutes fit. -/
theorem covers_scales_overshoot : ∃ axis, divide (.int 125000) (.number (.int 1)) = .ok axis ∧
    (∃ division ∈ axis.divisions, division.unit = .second) ∧
    (∃ division ∈ axis.divisions, division.unit = .minute) := by
  obtain ⟨axis, haxis⟩ := Except.exists_of_isOk
    (by decide +kernel : (divide (.int 125000) (.number (.int 1))).isOk = true)
  obtain ⟨hsecond, hminute⟩ := covers_scales (by decide +kernel) haxis
  exact ⟨axis, haxis, hsecond.2 (by decide +kernel), hminute.2 (by decide +kernel)⟩

/-- **The shape of an axis**: its step is nice, the loop over the ticks ends, and its offsets are
in order, from zero on, within the span, and no others than the ticks and the lead-in of an axis
in minutes. -/
theorem divide_shape (hspan : span.lt (.int (2 ^ 53 : Nat)) = true)
    (h : divide span (.number (.int ticks)) = .ok axis) :
    ∃ ruler set, Ruler.forSpan span ticks.toNat = .ok ruler ∧ axis.Draws ruler ∧
      1 ≤ ruler.step ∧ ruler.Shape span ∧ TickLoop.Ends span ruler.step .start set ∧
      ruler.offsets = if 60000 ≤ ruler.step then Ruler.insertLeadIn set else set := by
  obtain ⟨u, ruler, hu, -, -, hruler, -, hof, hshape, hdraws, -⟩ := divide_cases_below hspan h
  have hpos := hshape.nice.pos
  refine ⟨ruler, Ruler.ticks ruler.step (u / unitsPerOne), hruler, hdraws, hpos, hshape,
    TickLoop.ends_ticks hu hpos, ?_⟩
  conv => lhs; rw [hof]
  exact Ruler.ofStep_offsets _ _

/-- One millisecond short of twice half an hour, the step shrinks to half an hour. -/
theorem divide_shape_halfHour :
    ∃ axis ruler, divide (.int 3599999) (.number (.int 1)) = .ok axis ∧ axis.Draws ruler ∧
      ruler.Shape (.int 3599999) := by
  obtain ⟨axis, haxis⟩ := Except.exists_of_isOk
    (by decide +kernel : (divide (.int 3599999) (.number (.int 1))).isOk = true)
  obtain ⟨ruler, -, -, hdraws, -, hshape, -⟩ := divide_shape (by decide +kernel) haxis
  exact ⟨axis, ruler, haxis, hdraws, hshape⟩

/-- **How many regular ticks an axis shows**: as many as wanted or two at most, and two fifths of
as many at least, unless it steps in milliseconds. -/
theorem regularTicks_bounds (hone : Number.le (.int 1) span = true)
    (hspan : span.lt (.int (2 ^ 53 : Nat)) = true)
    (h : divide span (.number (.int ticks)) = .ok axis) :
    ∃ reach, span.floor = .ok reach ∧
      max 1 (min reach (2 * ticks / 5)) ≤ axis.regularTicks.length ∧
      axis.regularTicks.length ≤ max ticks 2 := by
  obtain ⟨u, ruler, hu, h53, hticks, -, hstep, hof, hshape, hdraws, -⟩ :=
    divide_cases_below hspan h
  have hunit : unitsPerOne ≤ u := hu.one_le.1 hone
  have hcount : axis.regularTicks.length = u / unitsPerOne / ruler.step := by
    rw [hdraws.length_regularTicks]
    conv => lhs; rw [hof]
    rw [Ruler.ofStep_step, Ruler.countP_ofStep hshape.nice.pos]
  obtain ⟨hlower, hupper⟩ := Ruler.chooseStep_density hu hunit h53 hticks hstep
  rw [hcount]
  exact ⟨_, hu.floor, by omega, by omega⟩

/-- Seven intervals of 12500.5 milliseconds: the step is two seconds, and six ticks fit. -/
theorem regularTicks_bounds_fraction :
    ∃ axis reach, divide (.float (.ofQuotient 25001 2)) (.number (.int 7)) = .ok axis ∧
      (Number.float (.ofQuotient 25001 2)).floor = .ok reach ∧
      max 1 (min reach (2 * 7 / 5)) ≤ axis.regularTicks.length ∧
      axis.regularTicks.length ≤ max (7 : Int) 2 := by
  obtain ⟨axis, haxis⟩ := Except.exists_of_isOk (by decide +kernel :
    (divide (.float (.ofQuotient 25001 2)) (.number (.int 7))).isOk = true)
  obtain ⟨reach, hreach, hlower, hupper⟩ :=
    regularTicks_bounds (by decide +kernel) (by decide +kernel) haxis
  exact ⟨axis, reach, haxis, hreach, hlower, hupper⟩

end Axis

end NetTimeline
