import NetTimeline.Proofs.Axis.Refusal
import NetTimeline.Proofs.Event.Growth
import NetTimeline.Proofs.Log.Lines
import NetTimeline.Timeline

/-!
# Which events have an axis

Each event has finite times, but the span goes from the start of one to the end of another, and
their difference can be too large for a finite value. It is then infinite, and refused as a span.
Short of that, events always have an axis; a span is never negative, since its ends are those of a
single event or further apart.

Principal result: `axisOfEvents_outcome` — the span and the axis of events within reach of each
other, and of all others.
-/

set_option autoImplicit false

namespace NetTimeline

/-! ## The span -/

/-- No event ends so long after the start of another that no finite value is near. -/
def WithinReach (events : List NetworkEvent) : Prop :=
  ∀ first ∈ events, ∀ last ∈ events,
    last.endTime.units - first.startTime.units < (wholeBound * unitsPerOne : Nat)

/-- Events are within reach of each other exactly if their exact span is. -/
theorem withinReach_iff {events : List NetworkEvent} :
    WithinReach events ↔ exactSpan events < wholeBound * unitsPerOne := by
  cases events with
  | nil => exact iff_of_true (fun _ hfirst => absurd hfirst List.not_mem_nil) wholeBound_units_pos
  | cons event events =>
    have horder := earliestStart_le_latestEnd event events
    have hexact : (exactSpan (event :: events) : Int) =
        (latestEnd event events).units - (earliestStart event events).units :=
      Int.toNat_of_nonneg (Int.sub_nonneg_of_le horder)
    rw [← Int.ofNat_lt, hexact]
    constructor
    · intro h
      obtain ⟨first, hfirst, hstart⟩ := exists_earliestStart event events
      obtain ⟨last, hlast, hend⟩ := exists_latestEnd event events
      rw [← hstart, ← hend]
      exact h first hfirst last hlast
    · intro h first hfirst last hlast
      have hstart := earliestStart_le hfirst
      have hend := le_latestEnd hlast
      omega

theorem exists_eventSpan {events : List NetworkEvent} (h : WithinReach events) :
    ∃ x : Finite64, eventSpan events = .finite x ∧ 0 ≤ x.units := by
  have hplace := place?_eventSpan events
  rw [Place.rounded_of_lt (withinReach_iff.1 h)] at hplace
  have husable : (Number.float (eventSpan events)).Usable := Number.usable_iff.2 ⟨_, hplace⟩
  exact husable

theorem eventSpan_infinite {events : List NetworkEvent} (h : ¬ WithinReach events) :
    eventSpan events = .infinite false := by
  have hplace := place?_eventSpan events
  rw [Place.rounded_of_le (Nat.not_lt.1 (mt withinReach_iff.2 h))] at hplace
  exact Binary64.eq_infinite_of_place? hplace

/-! ## The axis -/

theorem Axis.divide_infinite {ticks : Int} (h : 1 ≤ ticks) :
    divide (.float (.infinite false)) (.number (.int ticks)) = .error (.spanNotUsable "inf") := by
  rw [divide_of_one_le _ h]
  rfl

/-- **Events have an axis if they are within reach of each other, and else none.** -/
theorem axisOfEvents_outcome (events : List NetworkEvent) {ticks : Int} (hone : 1 ≤ ticks)
    (hmost : ticks ≤ maxTickCount) :
    (WithinReach events →
      (∃ x : Finite64, eventSpan events = .finite x ∧ 0 ≤ x.units) ∧
        ∃ axis, (axisOfEvents events (.number (.int ticks))).result = .ok axis) ∧
    (¬ WithinReach events →
      eventSpan events = .infinite false ∧
        (axisOfEvents events (.number (.int ticks))).result = .error (.spanNotUsable "inf")) := by
  rw [axisOfEvents_result]
  constructor
  · intro h
    obtain ⟨x, hspan, hx⟩ := exists_eventSpan h
    refine ⟨⟨x, hspan, hx⟩, ?_⟩
    rw [hspan]
    have husable : (Number.float (.finite x)).Usable := ⟨x, rfl, hx⟩
    obtain ⟨u, hu⟩ := Number.usable_iff.1 husable
    have hfew : ticks.toNat ≤ 2 ^ 53 := by
      unfold maxTickCount at hmost
      omega
    exact Axis.exists_divide hu trivial hone (Number.dividesBy_of_le _ hfew)
  · intro h
    rw [eventSpan_infinite h]
    exact ⟨rfl, Axis.divide_infinite hone⟩

/-- Two events at the ends of a span of `1.6e308` milliseconds. -/
def distantEvents : List NetworkEvent :=
  ["\x7b\"startTime\": 8e307, \"endTime\": 8e307\x7d".toList,
    "\x7b\"startTime\": -8e307, \"endTime\": -7e307\x7d".toList].filterMap LogLine.event?

theorem axisOfEvents_outcome_distant :
    distantEvents.length = 2 ∧ WithinReach distantEvents ∧
      ∃ axis, (axisOfEvents distantEvents (.number (.int 20))).result = .ok axis := by
  have hreach : WithinReach distantEvents := by
    unfold WithinReach
    decide +kernel
  have houtcome := axisOfEvents_outcome distantEvents (by decide : 1 ≤ (20 : Int)) (by decide)
  exact ⟨by decide +kernel, hreach, (houtcome.1 hreach).2⟩

/-- A single valid event can be so long that its span is infinite, and then there is no axis. -/
theorem axisOfEvents_overflow :
    ∃ event : NetworkEvent,
      LogLine.event? "\x7b\"startTime\": -1.7e308, \"endTime\": 1.7e308\x7d".toList = some event ∧
      eventSpan [event] = .infinite false ∧
      (axisOfEvents [event] (.number (.int 5))).result = .error (.spanNotUsable "inf") := by
  have hspan : (LogLine.event?
      "\x7b\"startTime\": -1.7e308, \"endTime\": 1.7e308\x7d".toList).map
      (fun event => eventSpan [event]) = some (.infinite false) := by
    decide +kernel
  obtain ⟨event, hevent, hinfinite⟩ := Option.map_eq_some_iff.1 hspan
  refine ⟨event, hevent, hinfinite, ?_⟩
  rw [axisOfEvents_result, hinfinite]
  exact Axis.divide_infinite (by decide)

end NetTimeline
