import NetTimeline.Proofs.Axis.Refusal
import NetTimeline.Proofs.Outcome

/-!
# Axes that show the same

Two spans at the same place have axes that show the same. Only zero has two values at its place,
`0.0` and `-0.0`; for both the step is one millisecond and the only tick stands at zero.

Principal result: `Axis.divide_agrees` — the outcome for a span depends on its place alone.
-/

set_option autoImplicit false

namespace NetTimeline

/-! ## Values at the same place -/

theorem Finite64.eq_of_units {x y : Finite64} (h : x.units = y.units) (hne : y.units ≠ 0) :
    x = y := by
  obtain ⟨xnegative, ⟨xunits, xgrid, xbounded⟩⟩ := x
  obtain ⟨ynegative, ⟨yunits, ygrid, ybounded⟩⟩ := y
  obtain ⟨rfl, rfl⟩ : xnegative = ynegative ∧ xunits = yunits := by
    unfold Finite64.units at h hne
    cases xnegative <;> cases ynegative <;> simp at h hne ⊢ <;> omega
  rfl

/-- Values at the same place are equal, or both are zeros. -/
theorem Binary64.eq_or_zero {x y : Binary64} (h : x.place? = y.place?) :
    x = y ∨ (Number.float x).LiesAt 0 ∧ (Number.float y).LiesAt 0 := by
  by_cases hzero : y.place? = some (.units 0)
  · exact .inr ⟨h.trans hzero, hzero⟩
  left
  match x, y, h with
  | .nan, .nan, _ => rfl
  | .infinite true, .infinite true, _ => rfl
  | .infinite false, .infinite false, _ => rfl
  | .finite x, .finite y, h =>
    have hunits : x.units = y.units := Place.units.inj (Option.some.inj h)
    have hne : y.units ≠ 0 := fun hy => hzero (congrArg (some ∘ Place.units) hy)
    rw [Finite64.eq_of_units hunits hne]

/-! ## The ruler of zero -/

namespace Ruler

variable {ticks : Nat}

theorem pos_of_wantedTicks {request : TickRequest} (h : wantedTicks request = .ok ticks) :
    0 < ticks := by
  by_cases hwhole : ∃ n : Int, request = .number (.int n)
  · obtain ⟨n, rfl⟩ := hwhole
    obtain ⟨hone, rfl⟩ := eq_ok_of_wantedTicks h
    omega
  · obtain ⟨given, herror⟩ := wantedTicks_notWhole fun n hn => hwhole ⟨n, hn⟩
    rw [herror] at h
    cases h

/-- For a zero of either sign the ruler has steps of one millisecond and one tick. -/
theorem forSpan_zero {x : Binary64} (h : (Number.float x).LiesAt 0) (hticks : 0 < ticks)
    (hdiv : ticks < wholeBound) : forSpan (.float x) ticks = .ok (ofStep 1 0) := by
  obtain ⟨ruler, hruler⟩ := exists_forSpan h trivial hticks hdiv
  obtain ⟨hstep, hof⟩ := forSpan_cases h hruler
  rw [chooseStep_eq_one h unitsPerOne_pos hticks hstep, Nat.zero_div] at hof
  rw [hruler, hof]

end Ruler

/-! ## The axis -/

namespace Axis

/-- Two axes that show the same: as long, with the same step and the same divisions. Only the sign
of a zero can tell their spans apart. -/
structure Agrees (a b : Axis) : Prop where
  span : a.span.units = b.span.units
  step : a.step = b.step
  divisions : a.divisions = b.divisions

theorem Agrees.refl (a : Axis) : a.Agrees a := ⟨rfl, rfl, rfl⟩

theorem ofRuler_agrees {a b : Finite64} (h : a.units = b.units) (ruler : Ruler) :
    SameOutcome Agrees (ofRuler a ruler) (ofRuler b ruler) := by
  refine (SameOutcome.refl (fun _ => rfl) (ruler.offsets.mapM Division.ofOffset)).bind ?_
  rintro divisions _ rfl
  refine (SameOutcome.refl (fun _ => rfl) (AxisError.field "step_ms" ruler.step)).bind ?_
  rintro step _ rfl
  exact .ok ⟨h, rfl, rfl⟩

theorem divide_of_usable {span : Number} {request : TickRequest} {ticks : Nat} {extent : Finite64}
    (hticks : Ruler.wantedTicks request = .ok ticks) (hspan : Ruler.usableSpan span = .ok extent) :
    divide span request = (do
      let ruler ← AxisError.ofNumber (Ruler.forSpan span ticks)
      ofRuler extent ruler) := by
  rw [divide, hticks, hspan]
  rfl

/-- The axis of a zero of either sign. -/
theorem divide_zero {z : Finite64} {request : TickRequest} {ticks : Nat}
    (h : (Number.float (.finite z)).LiesAt 0) (hticks : Ruler.wantedTicks request = .ok ticks) :
    divide (.float (.finite z)) request =
      if ticks < wholeBound then ofRuler z (Ruler.ofStep 1 0)
      else .error (.number .wholeTooLarge) := by
  rw [divide_of_usable hticks (Ruler.usableSpan_of_finite h rfl)]
  by_cases hdiv : ticks < wholeBound
  · rw [Ruler.forSpan_zero h (Ruler.pos_of_wantedTicks hticks) hdiv, if_pos hdiv]
    generalize Ruler.ofStep 1 0 = ruler
    rfl
  · have hlarge : ¬ (Number.float (.finite z)).DividesBy ticks := hdiv
    rw [Ruler.forSpan_tooLarge hlarge, if_neg hdiv]
    rfl

/-- **The outcome for a span depends on its place alone.** -/
theorem divide_agrees {x y : Binary64} (h : x.place? = y.place?) (request : TickRequest) :
    SameOutcome Agrees (divide (.float x) request) (divide (.float y) request) := by
  rcases Binary64.eq_or_zero h with rfl | ⟨hx, hy⟩
  · exact .refl Agrees.refl _
  obtain ⟨a, rfl, -, -⟩ := hx.eq_float
  obtain ⟨b, rfl, -, -⟩ := hy.eq_float
  have hunits : a.units = b.units := Place.units.inj (Option.some.inj h)
  cases hticks : Ruler.wantedTicks request with
  | error e =>
    unfold divide
    rw [hticks]
    exact .error e e
  | ok ticks =>
    rw [divide_zero hx hticks, divide_zero hy hticks]
    split
    · exact ofRuler_agrees hunits (Ruler.ofStep 1 0)
    · exact .error _ _

end Axis

end NetTimeline
