import NetTimeline.Proofs.Axis.Chosen
import NetTimeline.Proofs.Axis.Ticks

/-!
# Axes and their rulers

An axis that is returned was drawn from a ruler: `divide_cases` gives the ruler, and says of the
span that it lies at some number of units. `Axis.Draws` relates the two exactly; below `2 ^ 53`
no offset is rounded on the way, which is `draws_of_ofRuler`.
-/

set_option autoImplicit false

namespace NetTimeline

/-! ## From a span to a ruler -/

namespace Ruler

variable {span : Number} {u : Nat}

theorem eq_ok_of_wantedTicks {ticks : Int} {n : Nat}
    (h : wantedTicks (.number (.int ticks)) = .ok n) : 1 ≤ ticks ∧ n = ticks.toNat := by
  unfold wantedTicks at h
  dsimp only at h
  split at h
  · obtain ⟨given, -, herror⟩ := Except.bind_eq_ok.1 h
    cases herror
  · exact ⟨by omega, (Except.ok.inj h).symm⟩

theorem wantedTicks_ok {ticks : Int} (h : 1 ≤ ticks) :
    wantedTicks (.number (.int ticks)) = .ok ticks.toNat :=
  if_neg (by omega)

theorem ofNumber_eq_ok {α : Type} {result : Except NumberError α} {a : α} :
    AxisError.ofNumber result = .ok a ↔ result = .ok a := by
  cases result <;> simp [AxisError.ofNumber]

/-- A span that has an axis is finite and not negative. -/
theorem liesAt_of_usableSpan {extent : Finite64} (h : usableSpan span = .ok extent) :
    ∃ u, span.LiesAt u := by
  obtain ⟨nearest, hnearest, hrest⟩ := Except.bind_eq_ok.1 h
  split at hrest
  · rename_i x hlt
    exact Number.LiesAt.of_toBinary64 (ofNumber_eq_ok.1 hnearest) hlt
  · obtain ⟨given, -, herror⟩ := Except.bind_eq_ok.1 hrest
    cases herror

theorem forSpan_cases {ticks : Nat} {ruler : Ruler} (h : span.LiesAt u)
    (hruler : forSpan span ticks = .ok ruler) :
    chooseStep span ticks = .ok ruler.step ∧ ruler = ofStep ruler.step (u / unitsPerOne) := by
  obtain ⟨step, hstep, hrest⟩ := Except.bind_eq_ok.1 hruler
  obtain ⟨reach, hreach, heq⟩ := Except.bind_eq_ok.1 hrest
  obtain rfl := Except.ok.inj (h.floor.symm.trans hreach)
  obtain rfl : ofStep step (u / unitsPerOne) = ruler := Except.ok.inj heq
  rw [ofStep_step]
  exact ⟨hstep, rfl⟩

end Ruler

/-! ## From a ruler to an axis -/

namespace AxisError

variable {name : String} {n : Nat} {x : Finite64}

theorem field_eq_ok : field name n = .ok x ↔ Binary64.ofInt n = .finite x := by
  rw [field, Option.elim_eq_ok]
  constructor
  · rintro ⟨y, hy, hx⟩
    rw [Binary64.finite?_eq_some.1 hy, Except.ok.inj hx]
  · intro hx
    exact ⟨x, Binary64.finite?_eq_some.2 hx, rfl⟩

theorem negative_of_field (h : field name n = .ok x) : x.negative = false := by
  rw [(Binary64.eq_of_ofRatio (field_eq_ok.1 h)).1]
  simp

theorem units_eq_of_field (h : field name n = .ok x) :
    x.units = (roundToGrid (n * unitsPerOne) 1 : Nat) := by
  obtain ⟨-, hunits⟩ := Binary64.eq_of_ofRatio (field_eq_ok.1 h)
  rw [Int.natAbs_natCast] at hunits
  rw [Finite64.units, negative_of_field h, hunits]
  rfl

/-- A whole number of at most `2 ^ 53` goes into a field as it is. -/
theorem units_of_field (h : field name n = .ok x) (hn : n ≤ 2 ^ 53) :
    x.units = (n * unitsPerOne : Nat) := by
  rw [units_eq_of_field h, roundToGrid_one (onGrid_mul_unitsPerOne hn)]

end AxisError

namespace Division

theorem ofOffset_cases {offset : Nat} {division : Division}
    (h : ofOffset offset = .ok division) :
    division.unit = Scale.forTime (.int offset) ∧
      AxisError.field "offset_ms" offset = .ok division.offset := by
  obtain ⟨label, -, hrest⟩ := Except.bind_eq_ok.1 h
  obtain ⟨place, hplace, heq⟩ := Except.bind_eq_ok.1 hrest
  obtain rfl := Except.ok.inj heq
  exact ⟨rfl, hplace⟩

end Division

namespace Axis

/-- The step and the offsets of the axis are those of the ruler, exactly. -/
structure Draws (axis : Axis) (ruler : Ruler) : Prop where
  step : axis.step.units = (ruler.step * unitsPerOne : Nat)
  offsets : axis.divisions.map (fun division => division.offset.units) =
    ruler.offsets.map fun offset : Nat => ((offset * unitsPerOne : Nat) : Int)
  units : axis.divisions.map Division.unit =
    ruler.offsets.map fun offset : Nat => Scale.forTime (.int offset)

theorem ofRuler_cases {extent : Finite64} {ruler : Ruler} {axis : Axis}
    (h : ofRuler extent ruler = .ok axis) :
    axis.span = extent ∧ AxisError.field "step_ms" ruler.step = .ok axis.step ∧
      List.Forall₂ (fun offset division => Division.ofOffset offset = .ok division)
        ruler.offsets axis.divisions := by
  obtain ⟨divisions, hdivisions, hrest⟩ := Except.bind_eq_ok.1 h
  obtain ⟨step, hstep, heq⟩ := Except.bind_eq_ok.1 hrest
  obtain rfl := Except.ok.inj heq
  exact ⟨rfl, hstep, List.mapM_eq_ok.1 hdivisions⟩

theorem draws_of_ofRuler {extent : Finite64} {ruler : Ruler} {axis : Axis}
    (h : ofRuler extent ruler = .ok axis) (hstep : ruler.step ≤ 2 ^ 53)
    (hoffsets : ∀ offset ∈ ruler.offsets, offset ≤ 2 ^ 53) : axis.Draws ruler := by
  obtain ⟨-, hfield, hdivisions⟩ := ofRuler_cases h
  refine ⟨AxisError.units_of_field hfield hstep, ?_, ?_⟩
  · apply List.map_eq_of_forall₂ hdivisions
    intro offset hmem division hdivision
    exact AxisError.units_of_field (Division.ofOffset_cases hdivision).2 (hoffsets offset hmem)
  · apply List.map_eq_of_forall₂ hdivisions
    intro offset _ division hdivision
    exact (Division.ofOffset_cases hdivision).1

/-- A value is the offset of a division if an offset of the ruler goes into the field as it. -/
theorem exists_offset_iff {extent x : Finite64} {ruler : Ruler} {axis : Axis}
    (h : ofRuler extent ruler = .ok axis) :
    (∃ division ∈ axis.divisions, division.offset = x) ↔
      ∃ offset ∈ ruler.offsets, Binary64.ofInt offset = .finite x := by
  obtain ⟨-, -, hdivisions⟩ := ofRuler_cases h
  have hplaces : axis.divisions.map (fun division => Binary64.finite division.offset) =
      ruler.offsets.map fun offset : Nat => Binary64.ofInt offset := by
    apply List.map_eq_of_forall₂ hdivisions
    intro offset _ division hdivision
    exact (AxisError.field_eq_ok.1 (Division.ofOffset_cases hdivision).2).symm
  have hmem : Binary64.finite x ∈ axis.divisions.map (fun division => .finite division.offset) ↔
      .finite x ∈ ruler.offsets.map fun offset : Nat => Binary64.ofInt offset := by
    rw [hplaces]
  simpa only [List.mem_map, Binary64.finite.injEq] using hmem

/-- **What a returned axis was made of.** -/
theorem divide_cases {span : Number} {ticks : Int} {axis : Axis}
    (h : divide span (.number (.int ticks)) = .ok axis) :
    1 ≤ ticks ∧ ∃ u ruler, span.LiesAt u ∧ Ruler.forSpan span ticks.toNat = .ok ruler ∧
      ofRuler axis.span ruler = .ok axis := by
  obtain ⟨wanted, hwanted, hrest⟩ := Except.bind_eq_ok.1 h
  obtain ⟨extent, hextent, hrest⟩ := Except.bind_eq_ok.1 hrest
  obtain ⟨ruler, hruler, hdrawn⟩ := Except.bind_eq_ok.1 hrest
  obtain ⟨hticks, rfl⟩ := Ruler.eq_ok_of_wantedTicks hwanted
  obtain ⟨u, hu⟩ := Ruler.liesAt_of_usableSpan hextent
  refine ⟨hticks, u, ruler, hu, Ruler.ofNumber_eq_ok.1 hruler, ?_⟩
  rw [(ofRuler_cases hdrawn).1]
  exact hdrawn

end Axis

end NetTimeline
