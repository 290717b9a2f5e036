import NetTimeline.Proofs.Axis.Divide
import NetTimeline.Proofs.Axis.Label
import NetTimeline.Proofs.Axis.Monotone

/-!
# Labels tell the divisions apart

A label is rounded, so two divisions could share one, or a time just short of a minute could be
shown as sixty seconds. Neither happens with as few intervals as the command line allows. Any two
offsets of such a ruler are a twentieth of the larger one apart at least, the lead-in included; that
is more than a hundredth of the unit in which the larger one is labelled, and rounding to hundredths
keeps them apart. Labels in different units differ in what stands behind the number.

Principal results:

* `Scale.eq_of_labelText_eq` — a label tells its scale and the number it shows;
* `Scale.labelValue_lt` — offsets more than a hundredth of the unit apart show different numbers;
* `Ruler.le_mul_sub`, `Ruler.add_le_minute` — how far the offsets of a ruler are from each other,
  and those below a minute from the minute;
* `Axis.labels_unambiguous` — the labels of an axis are distinct, and none of them shows less than
  one or sixty seconds.
-/

set_option autoImplicit false

namespace NetTimeline

/-! ## What a label is made of -/

namespace Scale

variable {scale scale' : Scale} {offset larger : Nat}

/-- A label is a numeral, a blank and the marker of its scale. -/
theorem exists_numeral_labelText (scale : Scale) (offset : Nat) :
    ∃ numeral, Text.IsWord numeral ∧
      (scale.labelText offset).toList = numeral ++ ' ' :: scale.marker.toList := by
  cases scale with
  | millisecond =>
    refine ⟨Nat.toDigits 10 offset, (AllDigits.toDigits offset).isWord Nat.toDigits_ne_nil, ?_⟩
    simp [labelText, intNumeral, marker]
  | second =>
    obtain ⟨numeral, hword, hlabel, -⟩ := exists_places_numeral (second.hundredths offset) "s"
    exact ⟨numeral, hword, hlabel⟩
  | minute =>
    obtain ⟨numeral, hword, hlabel, -⟩ := exists_places_numeral (minute.hundredths offset) "min"
    exact ⟨numeral, hword, hlabel⟩

theorem dropWhile_labelText (scale : Scale) (offset : Nat) :
    (scale.labelText offset).toList.dropWhile (· ≠ ' ') = ' ' :: scale.marker.toList := by
  obtain ⟨numeral, hword, hlabel⟩ := exists_numeral_labelText scale offset
  rw [hlabel, List.dropWhile_append_of_pos fun c hc => decide_eq_true (hword.chars c hc).1]
  simp

theorem marker_injective (h : scale.marker = scale'.marker) : scale = scale' := by
  revert h
  cases scale <;> cases scale' <;> decide

/-- **A label tells its scale and the number it shows.** -/
theorem eq_of_labelText_eq (h : scale.labelText offset = scale'.labelText larger) :
    scale = scale' ∧ scale.labelValue offset = scale'.labelValue larger := by
  constructor
  · have hbehind := dropWhile_labelText scale offset
    rw [h, dropWhile_labelText] at hbehind
    exact (marker_injective (String.toList_injective (List.cons.inj hbehind).2)).symm
  · have hvalue := shownValue?_labelText scale offset
    rw [h, shownValue?_labelText] at hvalue
    exact (Option.some.inj hvalue).symm

/-! ## Offsets that are told apart -/

theorem hundredths_lt (hscale : scale ≠ .millisecond) (h53 : larger < 2 ^ 53)
    (hgap : 100 * offset + scale.milliseconds < 100 * larger) :
    scale.hundredths offset < scale.hundredths larger := by
  obtain ⟨-, hupper⟩ := hundredths_error hscale (by omega : offset < 2 ^ 53)
  obtain ⟨hlower, -⟩ := hundredths_error hscale h53
  have hproduct : scale.hundredths offset * scale.milliseconds <
      scale.hundredths larger * scale.milliseconds := by omega
  exact Nat.lt_of_mul_lt_mul_right hproduct

/-- **Offsets that are more than a hundredth of the unit apart show different numbers.** -/
theorem labelValue_lt (scale : Scale) (h53 : larger < 2 ^ 53)
    (hgap : 100 * offset + scale.milliseconds < 100 * larger) :
    scale.labelValue offset < scale.labelValue larger := by
  have hplaces (h : scale ≠ .millisecond) :
      (scale.hundredths offset : ℚ) / 100 < (scale.hundredths larger : ℚ) / 100 :=
    div_lt_div_of_pos_right (Nat.cast_lt.2 (hundredths_lt h h53 hgap)) (by norm_num)
  cases scale with
  | millisecond => exact Nat.cast_lt.2 (by omega)
  | second => exact hplaces (by decide)
  | minute => exact hplaces (by decide)

/-- An offset is labelled in a unit that it reaches. -/
theorem forTime_milliseconds_le (hpos : 0 < offset) :
    (forTime (.int offset)).milliseconds ≤ offset := by
  rw [forTime_int]
  split
  · exact hpos
  · split
    · show 1000 ≤ offset
      omega
    · show 60000 ≤ offset
      omega

/-- From a whole unit on, no less than one is shown. -/
theorem one_le_labelValue (hscale : scale ≠ .millisecond) (h53 : offset < 2 ^ 53)
    (hunit : scale.milliseconds ≤ offset) : 1 ≤ scale.labelValue offset := by
  obtain ⟨hlower, -⟩ := hundredths_error hscale h53
  have hcount : 100 ≤ scale.hundredths offset := by
    by_contra hfew
    have : scale.hundredths offset * scale.milliseconds ≤ 99 * scale.milliseconds :=
      Nat.mul_le_mul_right _ (by omega)
    have := milliseconds_pos scale
    omega
  have hvalue : (1 : ℚ) ≤ (scale.hundredths offset : ℚ) / 100 := by
    rw [le_div_iff₀ (by norm_num), one_mul]
    exact_mod_cast hcount
  cases scale with
  | millisecond => exact absurd rfl hscale
  | second => exact hvalue
  | minute => exact hvalue

/-- Ten milliseconds short of a minute, no more than `59.99` seconds are shown. -/
theorem labelValue_second_le (h : offset + 10 ≤ 60000) :
    second.labelValue offset ≤ 5999 / 100 := by
  obtain ⟨-, hupper⟩ := hundredths_error (by decide : second ≠ .millisecond)
    (by omega : offset < 2 ^ 53)
  have hcount : second.hundredths offset ≤ 5999 := by
    rw [show second.milliseconds = 1000 from rfl] at hupper
    omega
  exact div_le_div_of_nonneg_right (by exact_mod_cast hcount) (by norm_num)

end Scale

/-- A usable span below `2 ^ 53` converts. -/
theorem Number.Usable.converts_of_lt {span : Number} (h : span.Usable)
    (hlt : span.lt (.int (2 ^ 53 : Nat)) = true) : span.Converts := by
  cases span with
  | float x => trivial
  | int n =>
    rw [Number.lt_int_int, decide_eq_true_eq] at hlt
    have hnonneg : 0 ≤ n := h
    exact Nat.lt_trans (by omega : n.natAbs < 2 ^ 53) pow_lt_wholeBound

/-! ## How far apart the offsets of a ruler are -/

namespace Ruler

variable {step reach most offset larger : Nat}

/-- A ruler with so many steps at most: **two offsets are at least that part of the larger one
apart**. -/
theorem le_mul_sub (hstep : 0 < step) (hmost : reach / step ≤ most) (htwo : 2 ≤ most)
    (hoffset : offset ∈ (ofStep step reach).offsets) (hlarger : larger ∈ (ofStep step reach).offsets)
    (hlt : offset < larger) : larger ≤ most * (larger - offset) := by
  rw [mem_ofStep hstep] at hoffset hlarger
  rcases hlarger with ⟨⟨k, rfl⟩, hreach⟩ | ⟨hminute, rfl⟩
  · have hfew : k ≤ most := Nat.le_trans ((Nat.le_div_iff_mul_le hstep).2 hreach) hmost
    rcases hoffset with ⟨⟨j, rfl⟩, -⟩ | ⟨hminute, rfl⟩
    · have hsteps : step ≤ k * step - j * step := by
        have hnext : (j + 1) * step ≤ k * step :=
          Nat.mul_le_mul_right _ (Nat.lt_of_mul_lt_mul_right hlt)
        rw [Nat.succ_mul] at hnext
        omega
      exact Nat.mul_le_mul hfew hsteps
    · -- the first tick behind the lead-in is twice as far or more
      have hk : 0 < k := by
        apply Nat.pos_of_ne_zero
        rintro rfl
        omega
      have hfirst : step ≤ k * step := Nat.le_mul_of_pos_left step hk
      calc k * step ≤ 2 * (k * step - leadIn) := by unfold leadIn; omega
        _ ≤ most * (k * step - leadIn) := Nat.mul_le_mul_right _ htwo
  · rcases hoffset with ⟨⟨j, rfl⟩, -⟩ | ⟨-, rfl⟩
    · have hzero : j = 0 := by
        by_contra hne
        have := Nat.le_mul_of_pos_left step (Nat.pos_of_ne_zero hne)
        unfold leadIn at hlt
        omega
      rw [hzero, Nat.zero_mul, Nat.sub_zero]
      exact Nat.le_mul_of_pos_left _ (by omega)
    · exact absurd hlt (Nat.lt_irrefl _)

/-- **An offset below a minute is as far from the minute** as its step, or the lead-in. -/
theorem add_le_minute (hnice : Step.Nice step) (hmost : reach / step ≤ maxTickCount)
    (hoffset : offset ∈ (ofStep step reach).offsets) (hsecond : 1000 ≤ offset)
    (hminute : offset < 60000) : offset + 10 ≤ 60000 := by
  rcases (mem_ofStep hnice.pos).1 hoffset with ⟨⟨k, rfl⟩, hreach⟩ | ⟨-, rfl⟩
  · have hk : 0 < k := by
      apply Nat.pos_of_ne_zero
      rintro rfl
      omega
    have hsmall : step < 60000 :=
      Nat.lt_of_le_of_lt (Nat.le_mul_of_pos_left step hk) hminute
    have hdvd : step ∣ 60000 - k * step :=
      Nat.dvd_sub (hnice.dvd_of_lt.2 hsmall) (Nat.dvd_mul_left step k)
    have hgap : step ≤ 60000 - k * step := Nat.le_of_dvd (by omega) hdvd
    have hfew : k * step ≤ maxTickCount * step :=
      Nat.mul_le_mul_right _ (Nat.le_trans ((Nat.le_div_iff_mul_le hnice.pos).2 hreach) hmost)
    unfold maxTickCount at hfew
    omega
  · decide

/-- A span holds no more steps than wanted, or two. -/
theorem div_step_le {span : Number} {u ticks : Nat} (h : span.LiesAt u)
    (h53 : u < 2 ^ 53 * unitsPerOne) (hticks : 0 < ticks)
    (hs : chooseStep span ticks = .ok step) : u / unitsPerOne / step ≤ max ticks 2 := by
  rcases Nat.lt_or_ge u unitsPerOne with hlt | hone
  · rw [Nat.div_eq_of_lt hlt, Nat.zero_div]
    exact Nat.zero_le _
  · exact (chooseStep_density h hone h53 hticks hs).2

/-- The offsets of a ruler are so far apart that their labels differ. -/
structure Legible (ruler : Ruler) : Prop where
  increasing : ruler.offsets.Pairwise (· < ·)
  small : ∀ offset ∈ ruler.offsets, offset < 2 ^ 53
  apart : ∀ offset ∈ ruler.offsets, ∀ larger ∈ ruler.offsets, offset < larger →
    larger ≤ maxTickCount * (larger - offset)
  short : ∀ offset ∈ ruler.offsets, 1000 ≤ offset → offset < 60000 → offset + 10 ≤ 60000

/-- **A ruler of no more intervals than the command line allows is legible.** -/
theorem legible_of_few {span : Number} {u ticks : Nat} {ruler : Ruler} (h : span.LiesAt u)
    (h53 : u < 2 ^ 53 * unitsPerOne) (hticks : 0 < ticks) (hmost : ticks ≤ maxTickCount)
    (hs : chooseStep span ticks = .ok ruler.step)
    (hof : ruler = ofStep ruler.step (u / unitsPerOne)) (hshape : ruler.Shape span) :
    ruler.Legible := by
  have hfew : u / unitsPerOne / ruler.step ≤ maxTickCount :=
    Nat.le_trans (div_step_le h h53 hticks hs) (Nat.max_le.2 ⟨hmost, by decide⟩)
  refine ⟨hshape.increasing, ?_, ?_, ?_⟩
  · intro offset hmem
    have hinside := (h.int_le offset).1 (hshape.within offset hmem)
    exact Nat.lt_of_mul_lt_mul_right (Nat.lt_of_le_of_lt hinside h53)
  · rw [hof]
    intro offset hoffset larger hlarger hlt
    exact le_mul_sub hshape.nice.pos hfew (by decide) hoffset hlarger hlt
  · rw [hof]
    intro offset hoffset hsecond hminute
    exact add_le_minute hshape.nice hfew hoffset hsecond hminute

namespace Legible

variable {ruler : Ruler}

/-- The labels of a legible ruler are distinct: two that were equal would be in the same unit, and
the offsets are more than a hundredth of it apart. -/
theorem labels_nodup (hlegible : ruler.Legible) :
    (ruler.offsets.map fun offset : Nat =>
      (Scale.forTime (.int offset)).labelText offset).Nodup := by
  refine List.pairwise_map.2 (hlegible.increasing.imp_of_mem ?_)
  intro offset larger hoffset hlarger hlt hsame
  obtain ⟨hscale, hvalue⟩ := Scale.eq_of_labelText_eq hsame
  have hapart := hlegible.apart offset hoffset larger hlarger hlt
  have hunit := Scale.forTime_milliseconds_le (by omega : 0 < larger)
  have hgap : 100 * offset + (Scale.forTime (.int larger)).milliseconds < 100 * larger := by
    unfold maxTickCount at hapart
    omega
  have hless := Scale.labelValue_lt _ (hlegible.small larger hlarger) hgap
  rw [← hvalue, hscale] at hless
  exact lt_irrefl _ hless

theorem second_label (hlegible : ruler.Legible) (hoffset : offset ∈ ruler.offsets)
    (hunit : Scale.forTime (.int offset) = .second) :
    1 ≤ Scale.second.labelValue offset ∧ Scale.second.labelValue offset ≤ 5999 / 100 := by
  obtain ⟨hsecond, hminute⟩ := Scale.forTime_eq_second.1 hunit
  exact ⟨Scale.one_le_labelValue (by decide) (hlegible.small offset hoffset) hsecond,
    Scale.labelValue_second_le (hlegible.short offset hoffset hsecond hminute)⟩

end Legible

end Ruler

/-! ## The labels of an axis -/

/-- Unit and label of a division. -/
def Division.mark (division : Division) : Scale × String := (division.unit, division.label)

/-- Unit and label at an offset below `2 ^ 53`. -/
def Ruler.markAt (offset : Nat) : Scale × String :=
  (Scale.forTime (.int offset), (Scale.forTime (.int offset)).labelText offset)

theorem Division.mark_of_ofOffset {offset : Nat} {division : Division} (h53 : offset < 2 ^ 53)
    (h : ofOffset offset = .ok division) : division.mark = Ruler.markAt offset := by
  obtain ⟨label, hlabel, hrest⟩ := Except.bind_eq_ok.1 h
  obtain ⟨place, -, heq⟩ := Except.bind_eq_ok.1 hrest
  obtain rfl := Except.ok.inj heq
  have htext := Ruler.ofNumber_eq_ok.1 hlabel
  rw [Scale.label_eq_labelText _ h53] at htext
  rw [mark, Ruler.markAt, Except.ok.inj htext]

namespace Axis

variable {axis : Axis} {ruler : Ruler} {span : Number} {ticks : Int}

/-- An axis of so few intervals is drawn from a legible ruler. -/
theorem exists_legible_draws (hspan : span.lt (.int (2 ^ 53 : Nat)) = true)
    (hmost : ticks ≤ maxTickCount) (h : divide span (.number (.int ticks)) = .ok axis) :
    ∃ ruler : Ruler, ruler.Legible ∧ axis.Draws ruler ∧
      List.Forall₂ (fun offset division => Division.ofOffset offset = .ok division)
        ruler.offsets axis.divisions := by
  obtain ⟨u, ruler, hu, h53, hticks, hruler, hstep, hof, hshape, hdraws, -⟩ :=
    divide_cases_below hspan h
  obtain ⟨-, _, ruler', -, hruler', hdrawn⟩ := divide_cases h
  obtain rfl : ruler = ruler' := Except.ok.inj (hruler.symm.trans hruler')
  exact ⟨ruler, Ruler.legible_of_few hu h53 hticks (by omega) hstep hof hshape, hdraws,
    (ofRuler_cases hdrawn).2.2⟩

/-- Such an axis has its units and labels from the ruler. -/
theorem exists_legible (hspan : span.lt (.int (2 ^ 53 : Nat)) = true)
    (hmost : ticks ≤ maxTickCount) (h : divide span (.number (.int ticks)) = .ok axis) :
    ∃ ruler : Ruler, ruler.Legible ∧
      axis.divisions.map Division.mark = ruler.offsets.map Ruler.markAt := by
  obtain ⟨ruler, hlegible, -, hdivisions⟩ := exists_legible_draws hspan hmost h
  refine ⟨ruler, hlegible, List.map_eq_of_forall₂ hdivisions ?_⟩
  intro offset hmem division hdivision
  exact Division.mark_of_ofOffset (hlegible.small offset hmem) hdivision

theorem labels_eq_of_marks (h : axis.divisions.map Division.mark = ruler.offsets.map Ruler.markAt) :
    axis.labels = ruler.offsets.map fun offset : Nat =>
      (Scale.forTime (.int offset)).labelText offset := by
  have hsecond := congrArg (List.map Prod.snd) h
  rw [List.map_map, List.map_map] at hsecond
  exact hsecond

/-- Every division stands at an offset of the ruler. -/
theorem exists_offset_of_marks
    (h : axis.divisions.map Division.mark = ruler.offsets.map Ruler.markAt)
    {division : Division} (hmem : division ∈ axis.divisions) :
    ∃ offset ∈ ruler.offsets, Scale.forTime (.int offset) = division.unit ∧
      division.label = division.unit.labelText offset := by
  have hmark : division.mark ∈ ruler.offsets.map Ruler.markAt := by
    rw [← h]
    exact List.mem_map_of_mem hmem
  obtain ⟨offset, hoffset, heq⟩ := List.mem_map.1 hmark
  obtain ⟨hunit, hlabel⟩ := Prod.mk.inj heq
  exact ⟨offset, hoffset, hunit, by rw [← hunit, hlabel]⟩

/-- **The labels of an axis tell its divisions apart**, for a span below `2 ^ 53` and as many
intervals as the command line allows. There is such an axis, and its labels are distinct; those in
seconds show from `1.00` to `59.99`, and those in minutes `1.00` or more. -/
theorem labels_unambiguous (husable : span.Usable) (hspan : span.lt (.int (2 ^ 53 : Nat)) = true)
    (hone : 1 ≤ ticks) (hmost : ticks ≤ maxTickCount) :
    ∃ axis, divide span (.number (.int ticks)) = .ok axis ∧ axis.labels.Nodup ∧
      (∀ division ∈ axis.divisions, division.unit = .second →
        HasTwoPlaces "s" division.label ∧
          ∃ value, shownValue? division.label = some value ∧ 1 ≤ value ∧ value ≤ 5999 / 100) ∧
      (∀ division ∈ axis.divisions, division.unit = .minute →
        HasTwoPlaces "min" division.label ∧
          ∃ value, shownValue? division.label = some value ∧ 1 ≤ value) := by
  obtain ⟨axis, haxis⟩ := exists_divide_of_usable husable (husable.converts_of_lt hspan) hone
    (Int.le_trans hmost (by decide))
  obtain ⟨ruler, hlegible, hmarks⟩ := exists_legible hspan hmost haxis
  refine ⟨axis, haxis, ?_, ?_, ?_⟩
  · rw [labels_eq_of_marks hmarks]
    exact hlegible.labels_nodup
  · intro division hmem hsecond
    obtain ⟨offset, hoffset, hunit, hlabel⟩ := exists_offset_of_marks hmarks hmem
    rw [hsecond] at hunit hlabel
    rw [hlabel]
    exact ⟨hasTwoPlaces _ _, _, Scale.shownValue?_labelText _ _,
      hlegible.second_label hoffset hunit⟩
  · intro division hmem hminute
    obtain ⟨offset, hoffset, hunit, hlabel⟩ := exists_offset_of_marks hmarks hmem
    rw [hminute] at hunit hlabel
    rw [hlabel]
    exact ⟨hasTwoPlaces _ _, _, Scale.shownValue?_labelText _ _,
      Scale.one_le_labelValue (by decide) (hlegible.small offset hoffset)
        (Scale.forTime_eq_minute.1 hunit)⟩

/-- A hundred seconds in twenty intervals have a tick every five seconds, the closest ones that are
labelled in minutes; the last tick in seconds is labelled `55.00 s`. -/
theorem labels_unambiguous_close :
    ∃ axis, divide (.int 100000) (.number (.int 20)) = .ok axis ∧
      axis.labels.drop 10 = ["50.00 s", "55.00 s", "1.00 min", "1.08 min", "1.17 min", "1.25 min",
        "1.33 min", "1.42 min", "1.50 min", "1.58 min", "1.67 min"] ∧
      axis.labels.Nodup ∧
      (∀ division ∈ axis.divisions, division.unit = .second →
        ∃ value, shownValue? division.label = some value ∧ 1 ≤ value ∧ value ≤ 5999 / 100) ∧
      (∀ division ∈ axis.divisions, division.unit = .minute →
        ∃ value, shownValue? division.label = some value ∧ 1 ≤ value) := by
  have hlast : (divide (.int 100000) (.number (.int 20))).toOption.map
      (fun axis => axis.labels.drop 10) = some ["50.00 s", "55.00 s", "1.00 min", "1.08 min",
        "1.17 min", "1.25 min", "1.33 min", "1.42 min", "1.50 min", "1.58 min", "1.67 min"] := by
    decide +kernel
  obtain ⟨axis, haxis, hdistinct, hseconds, hminutes⟩ :=
    labels_unambiguous (show (Number.int 100000).Usable from (by decide : (0 : Int) ≤ 100000))
      (by decide +kernel) (by decide : 1 ≤ (20 : Int)) (by decide)
  rw [haxis] at hlast
  exact ⟨axis, haxis, Option.some.inj hlast, hdistinct,
    fun division hmem hunit => (hseconds division hmem hunit).2,
    fun division hmem hunit => (hminutes division hmem hunit).2⟩

end Axis

end NetTimeline
