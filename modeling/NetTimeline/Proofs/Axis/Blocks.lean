import NetTimeline.Proofs.Axis.Divide
import NetTimeline.Proofs.Axis.Refusal

/-!
# The axis scale by scale

The offsets of a ruler are in order and a later time is never labelled in a finer scale, so the
divisions of one scale stand side by side. To ask for the scales one after the other is to go along
the axis once. Nothing here depends on the size of the span: where an offset is rounded into its
field, it stays on its side of a second and of a minute, which are on the grid.

Principal results:

* `List.flatMap_filter_of_sorted` — a list in the order of its classes is put together from them;
* `Scale.forTime_field` — a rounded offset is labelled in the scale of the whole number;
* `Axis.divisions_blocks` — every axis is its milliseconds, its seconds and its minutes.
-/

set_option autoImplicit false

namespace NetTimeline

/-! ## Classes of a sorted list -/

section Classes

variable {α κ : Type}

/-- What a condition holds of comes first, if it holds of all that stands before such a member. -/
theorem List.filter_append_filter_not {p : α → Bool} {l : List α}
    (h : l.Pairwise fun a b => p b = true → p a = true) :
    l.filter p ++ l.filter (fun a => !p a) = l := by
  induction l with
  | nil => rfl
  | cons a l ih =>
    obtain ⟨hfirst, hrest⟩ := List.pairwise_cons.1 h
    cases ha : p a with
    | true =>
      rw [List.filter_cons_of_pos ha, List.filter_cons_of_neg (by simp [ha]), List.cons_append,
        ih hrest]
    | false =>
      -- behind the first that fails, it holds of none
      have hnone : ∀ b ∈ l, ¬ p b = true := by
        intro b hb hholds
        exact Bool.false_ne_true (ha.symm.trans (hfirst b hb hholds))
      rw [List.filter_cons_of_neg (by simp [ha]), List.filter_cons_of_pos (by simp [ha]),
        List.filter_eq_nil_iff.2 hnone, List.nil_append,
        List.filter_eq_self.2 fun b hb => by simpa using hnone b hb]

/-- **A list in the order of its classes is put together from them**, one class after the other. -/
theorem List.flatMap_filter_of_sorted [DecidableEq κ] {key : α → κ} {rank : κ → Nat}
    {classes : List κ} (hclasses : classes.Pairwise fun c d => rank c < rank d) {l : List α}
    (hsorted : l.Pairwise fun a b => rank (key a) ≤ rank (key b))
    (hmem : ∀ a ∈ l, key a ∈ classes) :
    classes.flatMap (fun c => l.filter fun a => decide (key a = c)) = l := by
  induction classes generalizing l with
  | nil =>
    cases l with
    | nil => rfl
    | cons a l => exact absurd (hmem a List.mem_cons_self) List.not_mem_nil
  | cons c classes ih =>
    obtain ⟨hlater, hclasses⟩ := List.pairwise_cons.1 hclasses
    -- the first class is the least one, so its members come first
    have hleast : ∀ a ∈ l, rank c ≤ rank (key a) := by
      intro a ha
      rcases List.mem_cons.1 (hmem a ha) with hc | hc
      · rw [hc]
      · exact Nat.le_of_lt (hlater _ hc)
    have hfirst : l.Pairwise fun a b => decide (key b = c) = true → decide (key a = c) = true := by
      refine hsorted.imp_of_mem ?_
      intro a b ha _ hle hb
      rw [of_decide_eq_true hb] at hle
      rcases List.mem_cons.1 (hmem a ha) with hc | hc
      · exact decide_eq_true hc
      · have := hlater _ hc
        omega
    have hothers : classes.flatMap (fun d => l.filter fun a => decide (key a = d)) =
        classes.flatMap fun d => (l.filter fun a => !decide (key a = c)).filter
          fun a => decide (key a = d) := by
      refine List.flatMap_congr fun d hd => ?_
      rw [List.filter_filter]
      refine List.filter_congr fun a _ => ?_
      have hne : d ≠ c := by
        rintro rfl
        exact Nat.lt_irrefl _ (hlater d hd)
      by_cases had : key a = d
      · simp [had, hne]
      · simp [had]
    rw [List.flatMap_cons, hothers, ih hclasses (hsorted.filter _)]
    · exact List.filter_append_filter_not hfirst
    · intro a ha
      obtain ⟨ha, hnot⟩ := List.mem_filter.1 ha
      exact (List.mem_cons.1 (hmem a ha)).resolve_left (by simpa using hnot)

end Classes

/-! ## The scale of an offset -/

/-- A whole number stays on its side of one that is on the grid, when it is rounded. -/
theorem roundToGrid_whole_lt_iff {n m : Nat} (hm : m ≤ 2 ^ 53) :
    roundToGrid (n * unitsPerOne) 1 < m * unitsPerOne ↔ n < m := by
  constructor
  · intro hlt
    by_contra hle
    have hreach : m * unitsPerOne ≤ roundToGrid (n * unitsPerOne) 1 := by
      refine le_roundToGrid (by decide) (onGrid_mul_unitsPerOne hm) ?_
      rw [Nat.mul_one]
      exact Nat.mul_le_mul_right _ (Nat.not_lt.1 hle)
    omega
  · intro hlt
    rw [roundToGrid_one (onGrid_mul_unitsPerOne (by omega))]
    exact Nat.mul_lt_mul_of_pos_right hlt unitsPerOne_pos

namespace Scale

theorem mem_all (scale : Scale) : scale ∈ all := by
  cases scale <;> decide

theorem all_increasing : all.Pairwise fun a b => a.milliseconds < b.milliseconds := by decide

/-- A later time is not labelled in a finer scale. -/
theorem forTime_mono {offset larger : Nat} (h : offset ≤ larger) :
    (forTime (.int offset)).milliseconds ≤ (forTime (.int larger)).milliseconds := by
  have hfinest (scale : Scale) : millisecond.milliseconds ≤ scale.milliseconds := by
    cases scale <;> decide
  have hcoarsest (scale : Scale) : scale.milliseconds ≤ minute.milliseconds := by
    cases scale <;> decide
  rcases Nat.lt_or_ge larger 60000 with hshort | hlong
  · rcases Nat.lt_or_ge offset 1000 with hfirst | hsecond
    · rw [forTime_int offset, if_pos (by omega)]
      exact hfinest _
    · rw [forTime_eq_second.2 ⟨hsecond, by omega⟩, forTime_eq_second.2 ⟨by omega, hshort⟩]
  · rw [forTime_eq_minute.2 hlong]
    exact hcoarsest _

/-- **A rounded offset is labelled in the scale of the whole number.** -/
theorem forTime_field {name : String} {n : Nat} {x : Finite64}
    (h : AxisError.field name n = .ok x) :
    forTime (.float (.finite x)) = forTime (.int n) := by
  obtain ⟨hsign, hunits⟩ := Binary64.eq_of_ofRatio (AxisError.field_eq_ok.1 h)
  rw [Int.natAbs_natCast] at hunits
  have hlies : (Number.float (.finite x)).LiesAt (roundToGrid (n * unitsPerOne) 1) := by
    refine .finite hunits fun hnegative => ?_
    rw [hsign, decide_eq_true_eq] at hnegative
    omega
  have hside {m : Nat} (hm : m ≤ 2 ^ 53) :
      (Number.float (.finite x)).lt (.int m) = Number.lt (.int n) (.int m) := by
    rw [Bool.eq_iff_iff, hlies.lt_int, roundToGrid_whole_lt_iff hm, Number.lt_int_int,
      decide_eq_true_eq]
    omega
  unfold forTime
  rw [show (1000 : Int) = (1000 : Nat) from rfl, show (60000 : Int) = (60000 : Nat) from rfl,
    hside (by decide), hside (by decide)]

end Scale

/-! ## The divisions of a ruler -/

namespace Ruler

variable {span : Number} {u ticks : Nat} {ruler : Ruler}

/-- The offsets of a ruler are in order, for a span of any size. -/
theorem forSpan_increasing (h : span.LiesAt u) (hticks : 0 < ticks)
    (hruler : forSpan span ticks = .ok ruler) : ruler.offsets.Pairwise (· < ·) := by
  obtain ⟨hstep, hof⟩ := forSpan_cases h hruler
  rw [hof]
  exact ofStep_increasing (chooseStep_nice h hticks hstep).pos _

/-- A ruler starts at zero, and has the lead-in if it steps in minutes. -/
theorem forSpan_starts (h : span.LiesAt u) (hticks : 0 < ticks)
    (hruler : forSpan span ticks = .ok ruler) :
    0 ∈ ruler.offsets ∧ (60000 ≤ ruler.step → leadIn ∈ ruler.offsets) := by
  obtain ⟨hstep, hof⟩ := forSpan_cases h hruler
  have hpos := (chooseStep_nice h hticks hstep).pos
  rw [hof, mem_ofStep hpos, mem_ofStep hpos, ofStep_step]
  exact ⟨.inl ⟨⟨0, (Nat.zero_mul _).symm⟩, Nat.zero_le _⟩, fun hminute => .inr ⟨hminute, rfl⟩⟩

end Ruler

namespace Axis

variable {axis : Axis} {extent : Finite64} {ruler : Ruler}

/-- What is drawn from a ruler is labelled in the scales of its offsets. -/
theorem units_of_ofRuler (h : ofRuler extent ruler = .ok axis) :
    axis.divisions.map Division.unit =
      ruler.offsets.map fun offset : Nat => Scale.forTime (.int offset) := by
  refine List.map_eq_of_forall₂ (ofRuler_cases h).2.2 fun offset _ division hdivision => ?_
  exact (Division.ofOffset_cases hdivision).1

/-- **What is drawn from a ruler in order is put together from its scales.** -/
theorem flatMap_divisionsIn (h : ofRuler extent ruler = .ok axis)
    (hincreasing : ruler.offsets.Pairwise (· < ·)) :
    Scale.all.flatMap axis.divisionsIn = axis.divisions := by
  refine List.flatMap_filter_of_sorted Scale.all_increasing ?_ fun division _ => Scale.mem_all _
  have hunits : (axis.divisions.map Division.unit).Pairwise
      fun a b => a.milliseconds ≤ b.milliseconds := by
    rw [units_of_ofRuler h]
    exact List.pairwise_map.2 (hincreasing.imp fun hlt => Scale.forTime_mono (Nat.le_of_lt hlt))
  exact hunits.of_map Division.unit fun _ _ hle => hle

/-- Each division that is drawn is labelled in the scale of its own offset. -/
theorem unit_of_ofRuler (h : ofRuler extent ruler = .ok axis) {division : Division}
    (hmem : division ∈ axis.divisions) :
    division.unit = Scale.forTime (.float (.finite division.offset)) := by
  obtain ⟨offset, -, hdivision⟩ := List.exists_of_forall₂ (ofRuler_cases h).2.2 hmem
  obtain ⟨hunit, hfield⟩ := Division.ofOffset_cases hdivision
  rw [hunit, Scale.forTime_field hfield]

theorem eq_int_of_divide {span : Number} {request : TickRequest}
    (h : divide span request = .ok axis) : ∃ ticks : Int, request = .number (.int ticks) := by
  by_contra hnot
  obtain ⟨given, herror⟩ :=
    Ruler.wantedTicks_notWhole fun ticks hrequest => hnot ⟨ticks, hrequest⟩
  obtain ⟨wanted, hwanted, -⟩ := Except.bind_eq_ok.1 h
  rw [herror] at hwanted
  cases hwanted

/-- **The scales split every axis into blocks.** Whenever an axis is returned, whatever the span and
the number of intervals, it is its milliseconds, then its seconds, then its minutes, and the first
of these are never missing. Each division is labelled in the scale of its own offset. So the scales
one after the other show each offset of the ruler once, from the least to the greatest, with the
lead-in of an axis in minutes. -/
theorem divisions_blocks {span : Number} {request : TickRequest}
    (h : divide span request = .ok axis) :
    axis.divisions = axis.divisionsIn .millisecond ++ axis.divisionsIn .second ++
        axis.divisionsIn .minute ∧
      axis.divisionsIn .millisecond ≠ [] ∧
      (∀ division ∈ axis.divisions,
        division.unit = Scale.forTime (.float (.finite division.offset))) ∧
      ∃ (ticks : Int) (ruler : Ruler), request = .number (.int ticks) ∧
        Ruler.forSpan span ticks.toNat = .ok ruler ∧ ruler.offsets.Pairwise (· < ·) ∧
        (60000 ≤ ruler.step → Ruler.leadIn ∈ ruler.offsets) ∧
        List.Forall₂ (fun offset division => Division.ofOffset offset = .ok division) ruler.offsets
          (Scale.all.flatMap axis.divisionsIn) := by
  obtain ⟨ticks, rfl⟩ := eq_int_of_divide h
  obtain ⟨hticks, u, ruler, hu, hruler, hdrawn⟩ := divide_cases h
  have hpositive : 0 < ticks.toNat := by omega
  have hincreasing := Ruler.forSpan_increasing hu hpositive hruler
  obtain ⟨hzero, hlead⟩ := Ruler.forSpan_starts hu hpositive hruler
  have hblocks := flatMap_divisionsIn hdrawn hincreasing
  obtain ⟨-, -, hdivisions⟩ := ofRuler_cases hdrawn
  refine ⟨?_, ?_, fun division hmem => unit_of_ofRuler hdrawn hmem, ticks, ruler, rfl, hruler,
    hincreasing, hlead, ?_⟩
  · rw [List.append_assoc]
    conv => lhs; rw [← hblocks]
    simp [Scale.all]
  · have hunit : Scale.millisecond ∈ axis.divisions.map Division.unit := by
      rw [units_of_ofRuler hdrawn]
      exact List.mem_map.2 ⟨0, hzero, by decide⟩
    obtain ⟨division, hmem, hmillisecond⟩ := List.mem_map.1 hunit
    exact List.ne_nil_of_mem (List.mem_filter.2 ⟨hmem, decide_eq_true hmillisecond⟩)
  · rwa [hblocks]

/-- One millisecond short of `2 ^ 33 + 1` times half an hour, the only tick is zero, and the lead-in
stands alone among the seconds. -/
theorem divisions_blocks_overshot :
    ∃ axis, divide (.int 15461882267399999) (.number (.int 1)) = .ok axis ∧
      axis.divisions = axis.divisionsIn .millisecond ++ axis.divisionsIn .second ++
        axis.divisionsIn .minute ∧
      (axis.divisionsIn .second).map Division.label = ["30.00 s"] ∧
      axis.divisionsIn .minute = [] ∧
      ∀ division ∈ axis.divisions,
        division.unit = Scale.forTime (.float (.finite division.offset)) := by
  have hknown : (divide (.int 15461882267399999) (.number (.int 1))).toOption.map (fun axis =>
      ((axis.divisionsIn .second).map Division.label, axis.divisionsIn .minute)) =
      some (["30.00 s"], []) := by
    decide +kernel
  obtain ⟨axis, haxis⟩ := Except.exists_of_isOk
    (by decide +kernel : (divide (.int 15461882267399999) (.number (.int 1))).isOk = true)
  obtain ⟨hblocks, -, hunits, -⟩ := divisions_blocks haxis
  rw [haxis] at hknown
  obtain ⟨hseconds, hminutes⟩ := Prod.mk.inj (Option.some.inj hknown)
  exact ⟨axis, haxis, hblocks, hseconds, hminutes, hunits⟩

end Axis

end NetTimeline
