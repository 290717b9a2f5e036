import NetTimeline.Event.Basic

/-!
# The span of some events

Reference model of `compute_duration`. The span of events is the time from the earliest start to the
latest end; without events it is zero. Of equal starts, or ends, the first counts, which matters
only for the sign of a zero.

Main statements: `earliestStart_le` and `le_latestEnd` — no event starts before the earliest start
or ends after the latest end.
-/

set_option autoImplicit false

namespace NetTimeline

/-- The lesser of two values, the first if they are equal. -/
def Finite64.min (a b : Finite64) : Finite64 := if b.units < a.units then b else a

/-- The greater of two values, the first if they are equal. -/
def Finite64.max (a b : Finite64) : Finite64 := if a.units < b.units then b else a

theorem Finite64.units_min (a b : Finite64) : (a.min b).units = Min.min a.units b.units := by
  unfold Finite64.min
  split <;> omega

theorem Finite64.units_max (a b : Finite64) : (a.max b).units = Max.max a.units b.units := by
  unfold Finite64.max
  split <;> omega

/-- The earliest start of an event and others. -/
def earliestStart (event : NetworkEvent) (events : List NetworkEvent) : Finite64 :=
  events.foldl (fun least event => least.min event.startTime) event.startTime

/-- The latest end of an event and others. -/
def latestEnd (event : NetworkEvent) (events : List NetworkEvent) : Finite64 :=
  events.foldl (fun greatest event => greatest.max event.endTime) event.endTime

/-- The milliseconds from the earliest start to the latest end; infinite beyond finite values
(`compute_duration`). -/
def eventSpan : List NetworkEvent → Binary64
  | [] => .zero
  | event :: events => (latestEnd event events).sub (earliestStart event events)

theorem foldl_min_le (events : List NetworkEvent) (least : Finite64) :
    (events.foldl (fun least event => least.min event.startTime) least).units ≤ least.units ∧
      ∀ e ∈ events,
        (events.foldl (fun least event => least.min event.startTime) least).units ≤
          e.startTime.units := by
  induction events generalizing least with
  | nil => simp
  | cons event events ih =>
    have h := ih (least.min event.startTime)
    have hmin := Finite64.units_min least event.startTime
    simp only [List.foldl_cons, List.mem_cons, forall_eq_or_imp]
    refine ⟨?_, ?_, h.2⟩ <;> omega

theorem le_foldl_max (events : List NetworkEvent) (greatest : Finite64) :
    greatest.units ≤
        (events.foldl (fun greatest event => greatest.max event.endTime) greatest).units ∧
      ∀ e ∈ events, e.endTime.units ≤
        (events.foldl (fun greatest event => greatest.max event.endTime) greatest).units := by
  induction events generalizing greatest with
  | nil => simp
  | cons event events ih =>
    have h := ih (greatest.max event.endTime)
    have hmax := Finite64.units_max greatest event.endTime
    simp only [List.foldl_cons, List.mem_cons, forall_eq_or_imp]
    refine ⟨?_, ?_, h.2⟩ <;> omega

theorem earliestStart_le {event : NetworkEvent} {events : List NetworkEvent} {e : NetworkEvent}
    (h : e ∈ event :: events) : (earliestStart event events).units ≤ e.startTime.units := by
  have hfold := foldl_min_le events event.startTime
  rcases List.mem_cons.1 h with rfl | h
  · exact hfold.1
  · exact hfold.2 e h

theorem le_latestEnd {event : NetworkEvent} {events : List NetworkEvent} {e : NetworkEvent}
    (h : e ∈ event :: events) : e.endTime.units ≤ (latestEnd event events).units := by
  have hfold := le_foldl_max events event.endTime
  rcases List.mem_cons.1 h with rfl | h
  · exact hfold.1
  · exact hfold.2 e h

end NetTimeline
