import Mathlib.Data.List.Basic
import NetTimeline.Proofs.Axis.NiceStep
import NetTimeline.Axis.Basic

/-!
# The ticks of a ruler

`TickLoop` sets one tick after the other: it goes on as long as the next multiple of the step is
not beyond the span, in an exact comparison. `TickLoop.ends_ticks` says that for a positive step it
ends, with `Ruler.ticks`.

`Ruler.Shape` collects what holds of the offsets of a ruler, the lead-in included;
`Ruler.ofStep_shape` proves it of every ruler with a nice step whose lead-in stands within the
span.
-/

set_option autoImplicit false

namespace NetTimeline

/-! ## Setting the ticks one by one -/

/-- How many ticks are set, and their offsets. -/
structure TickLoop where
  count : Nat
  offsets : List Nat
  deriving DecidableEq, Repr

namespace TickLoop

def start : TickLoop := ⟨0, []⟩

/-- One pass sets the next tick, unless that is beyond the span. -/
def pass (span : Number) (step : Nat) (state : TickLoop) : Option TickLoop :=
  if Number.le (.int (state.count * step : Nat)) span then
    some ⟨state.count + 1, state.offsets ++ [state.count * step]⟩
  else none

/-- The loop ends, with the given offsets, when no pass sets a tick any more. -/
inductive Ends (span : Number) (step : Nat) : TickLoop → List Nat → Prop where
  | stop {state : TickLoop} (h : pass span step state = none) : Ends span step state state.offsets
  | next {state later : TickLoop} {offsets : List Nat} (h : pass span step state = some later)
      (hends : Ends span step later offsets) : Ends span step state offsets

/-- The offsets so far are the multiples of the step in their order. -/
def Inv (step : Nat) (state : TickLoop) : Prop :=
  state.offsets = (List.range state.count).map (· * step)

theorem Inv.start (step : Nat) : Inv step start := rfl

theorem Inv.pass {span : Number} {step : Nat} {state later : TickLoop} (hinv : Inv step state)
    (h : pass span step state = some later) :
    Inv step later ∧ later.count = state.count + 1 := by
  unfold TickLoop.pass at h
  split at h
  · obtain rfl := Option.some.inj h
    refine ⟨?_, rfl⟩
    rw [Inv, hinv, List.range_succ, List.map_append]
    rfl
  · cases h

theorem pass_isSome {span : Number} {u step : Nat} (h : span.LiesAt u) (hstep : 0 < step)
    (state : TickLoop) :
    (pass span step state).isSome ↔ state.count ≤ u / unitsPerOne / step := by
  rw [Nat.le_div_iff_mul_le hstep, Nat.le_div_iff_mul_le unitsPerOne_pos, ← h.int_le]
  unfold pass
  split <;> simp_all

/-- From any state on the way the loop sets the ticks that are left. -/
theorem ends_of_inv {span : Number} {u step : Nat} (h : span.LiesAt u) (hstep : 0 < step) :
    ∀ (left : Nat) (state : TickLoop), Inv step state →
      state.count + left = u / unitsPerOne / step + 1 →
      Ends span step state (Ruler.ticks step (u / unitsPerOne)) := by
  intro left
  induction left with
  | zero =>
    intro state hinv hcount
    have hstop : pass span step state = none := by
      rw [← Option.not_isSome_iff_eq_none, pass_isSome h hstep]
      omega
    have hoffsets : state.offsets = Ruler.ticks step (u / unitsPerOne) := by
      rw [hinv, Ruler.ticks, ← hcount, Nat.add_zero]
    rw [← hoffsets]
    exact .stop hstop
  | succ left ih =>
    intro state hinv hcount
    have hgoes : (pass span step state).isSome := by
      rw [pass_isSome h hstep]
      omega
    obtain ⟨later, hlater⟩ := Option.isSome_iff_exists.1 hgoes
    obtain ⟨hinv', hcount'⟩ := hinv.pass hlater
    exact .next hlater (ih later hinv' (by omega))

/-- **The loop ends**, if the step is positive, and has set the multiples of the step that the
span reaches. -/
theorem ends_ticks {span : Number} {u step : Nat} (h : span.LiesAt u) (hstep : 0 < step) :
    Ends span step start (Ruler.ticks step (u / unitsPerOne)) :=
  ends_of_inv h hstep _ start (Inv.start step) (Nat.zero_add _)

end TickLoop

/-! ## The shape of a ruler -/

namespace Ruler

/-- What the offsets of a ruler for a span are like. -/
structure Shape (ruler : Ruler) (span : Number) : Prop where
  nice : Step.Nice ruler.step
  starts : ruler.offsets.head? = some 0
  increasing : ruler.offsets.Pairwise (· < ·)
  within : ∀ offset ∈ ruler.offsets, Number.le (.int offset) span = true
  /-- The offsets are the multiples of the step within the span and, in minutes, the lead-in. -/
  mem_iff : ∀ offset, offset ∈ ruler.offsets ↔
    ((∃ k, offset = k * ruler.step) ∧ Number.le (.int offset) span = true) ∨
      (60000 ≤ ruler.step ∧ offset = leadIn)

theorem ofStep_step (step reach : Nat) : (ofStep step reach).step = step := by
  unfold ofStep
  split <;> rfl

theorem ofStep_offsets (step reach : Nat) :
    (ofStep step reach).offsets =
      if 60000 ≤ step then insertLeadIn (ticks step reach) else ticks step reach := by
  unfold ofStep
  split <;> rfl

theorem ticks_eq_cons (step reach : Nat) :
    ticks step reach = 0 :: (List.range (reach / step)).map fun k => (k + 1) * step := by
  rw [ticks, List.range_succ_eq_map, List.map_cons, List.map_map, Nat.zero_mul]
  rfl

theorem ticks_increasing {step : Nat} (hstep : 0 < step) (reach : Nat) :
    (ticks step reach).Pairwise (· < ·) := by
  refine List.pairwise_map.2 (List.pairwise_lt_range.imp fun hlt => ?_)
  exact Nat.mul_lt_mul_of_pos_right hlt hstep

theorem insertLeadIn_ticks (step reach : Nat) :
    insertLeadIn (ticks step reach) =
      0 :: leadIn :: (List.range (reach / step)).map fun k => (k + 1) * step := by
  rw [ticks_eq_cons]
  rfl

theorem mem_insertLeadIn_ticks {step reach offset : Nat} :
    offset ∈ insertLeadIn (ticks step reach) ↔ offset ∈ ticks step reach ∨ offset = leadIn := by
  rw [insertLeadIn_ticks, ticks_eq_cons]
  simp only [List.mem_cons]
  tauto

theorem mem_ofStep {step reach offset : Nat} (hstep : 0 < step) :
    offset ∈ (ofStep step reach).offsets ↔
      ((∃ k, offset = k * step) ∧ offset ≤ reach) ∨ (60000 ≤ step ∧ offset = leadIn) := by
  rw [ofStep_offsets]
  split
  · rename_i hminute
    rw [mem_insertLeadIn_ticks, mem_ticks hstep]
    simp [hminute]
  · rename_i hminute
    rw [mem_ticks hstep]
    simp [hminute]

/-- The lead-in stands between zero and the first tick of an axis in minutes. -/
theorem insertLeadIn_increasing {step : Nat} (hminute : 60000 ≤ step) (reach : Nat) :
    (insertLeadIn (ticks step reach)).Pairwise (· < ·) := by
  have hincreasing := ticks_increasing (by omega : 0 < step) reach
  rw [ticks_eq_cons, List.pairwise_cons] at hincreasing
  rw [insertLeadIn_ticks, List.pairwise_cons, List.pairwise_cons]
  refine ⟨fun offset hmem => ?_, fun offset hmem => ?_, hincreasing.2⟩
  · rcases List.mem_cons.1 hmem with rfl | htick
    · decide
    · exact hincreasing.1 offset htick
  · obtain ⟨k, -, rfl⟩ := List.mem_map.1 hmem
    have : step ≤ (k + 1) * step := Nat.le_mul_of_pos_left step (Nat.succ_pos k)
    unfold leadIn
    omega

/-- The offsets of a ruler are in order, also where its step is beyond the span. -/
theorem ofStep_increasing {step : Nat} (hstep : 0 < step) (reach : Nat) :
    (ofStep step reach).offsets.Pairwise (· < ·) := by
  rw [ofStep_offsets]
  split
  · rename_i hminute
    exact insertLeadIn_increasing hminute reach
  · exact ticks_increasing hstep reach

/-- **The shape of every ruler**, if its step is nice and within the span when it is in minutes. -/
theorem ofStep_shape {span : Number} {u step : Nat} (h : span.LiesAt u) (hnice : Step.Nice step)
    (hinside : 60000 ≤ step → step * unitsPerOne ≤ u) :
    (ofStep step (u / unitsPerOne)).Shape span := by
  have hreach (offset : Nat) : offset ≤ u / unitsPerOne ↔ Number.le (.int offset) span = true := by
    rw [Nat.le_div_iff_mul_le unitsPerOne_pos, h.int_le]
  have hmem (offset : Nat) : offset ∈ (ofStep step (u / unitsPerOne)).offsets ↔
      ((∃ k, offset = k * step) ∧ Number.le (.int offset) span = true) ∨
        (60000 ≤ step ∧ offset = leadIn) := by
    rw [mem_ofStep hnice.pos, hreach]
  have hwithin (offset : Nat) (hoffset : offset ∈ (ofStep step (u / unitsPerOne)).offsets) :
      Number.le (.int offset) span = true := by
    rcases (hmem offset).1 hoffset with ⟨-, hle⟩ | ⟨hminute, rfl⟩
    · exact hle
    · have hlead : leadIn * unitsPerOne ≤ step * unitsPerOne :=
        Nat.mul_le_mul_right _ (by unfold leadIn; omega)
      exact (h.int_le _).2 (Nat.le_trans hlead (hinside hminute))
  refine ⟨by rwa [ofStep_step], ?_, ofStep_increasing hnice.pos _, hwithin, by rwa [ofStep_step]⟩
  rw [ofStep_offsets]
  split
  · rw [insertLeadIn_ticks]; rfl
  · rw [ticks_eq_cons]; rfl

/-- The positive multiples of the step among the offsets are as many as whole steps in the span;
the lead-in is none of them. -/
theorem countP_ofStep {step : Nat} (hstep : 0 < step) (reach : Nat) :
    (ofStep step reach).offsets.countP (fun offset => decide (0 < offset ∧ step ∣ offset)) =
      reach / step := by
  have hticks : ((List.range (reach / step)).map fun k => (k + 1) * step).countP
      (fun offset => decide (0 < offset ∧ step ∣ offset)) = reach / step := by
    rw [List.countP_eq_length.2, List.length_map, List.length_range]
    intro offset hmem
    obtain ⟨k, -, rfl⟩ := List.mem_map.1 hmem
    rw [decide_eq_true_eq]
    exact ⟨Nat.mul_pos (Nat.succ_pos k) hstep, Nat.dvd_mul_left _ _⟩
  rw [ofStep_offsets]
  split
  · rename_i hminute
    have hlead : ¬ (0 < leadIn ∧ step ∣ leadIn) := by
      rintro ⟨hpos, hdvd⟩
      have := Nat.le_of_dvd hpos hdvd
      unfold leadIn at this
      omega
    rw [insertLeadIn_ticks, List.countP_cons_of_neg (by simp),
      List.countP_cons_of_neg (by simpa using hlead), hticks]
  · rw [ticks_eq_cons, List.countP_cons_of_neg (by simp), hticks]

end Ruler

end NetTimeline
