import NetTimeline.Log.Record
import NetTimeline.Recorder.Wait

/-!
# A recorder shared by threads

Reference model of `NetworkEventRecorder` by the sections that hold its condition: `record`,
`events`, `clear` and `wait_for_events`. Threads record events, clear and look at them, and wait
until there are enough. What a thread does while it alone has the recorder is one `Move`;
`Recorder.step` says what comes of it, and `Recorder.run` of several in a row. A thread that waits
looks at the events when it starts and whenever it has been woken up: by a new event, by the clock,
or for no reason. Between two looks it is parked.

Main statements: `Recorder.step_iff` — the outcomes of a move, as the table `Recorder.Made`;
`Recorder.run_events` — the events are those recorded since they were last cleared, in order;
`Recorder.WokenUp` with `step_wokenUp` and `run_wokenUp` — no thread stays parked while there are
enough events for it.
-/

set_option autoImplicit false

namespace NetTimeline

/-- A thread that waits, and whether it is parked, that is, has not been woken up since its last
look. -/
structure Waiter where
  thread : Nat
  request : WaitRequest
  parked : Bool
  deriving DecidableEq

/-- The recorded events, in order, and the threads that wait. -/
structure Recorder where
  events : List NetworkEvent
  waiters : List Waiter
  deriving DecidableEq

/-- What one thread does while it alone has the recorder, or what happens to it while parked. -/
inductive Move where
  /-- An event is recorded, and all that are parked are woken up. -/
  | record (thread : Nat) (event : NetworkEvent)
  /-- All events are dropped. -/
  | clear
  /-- A thread takes the events that there are. -/
  | look
  /-- A thread begins to wait. -/
  | enter (thread : Nat) (request : WaitRequest)
  /-- A parked thread is woken up by the clock or for no reason. -/
  | wake (thread : Nat)
  /-- A waiting thread looks at the events; `elapsed` tells whether the clock has moved on by its
  time. -/
  | pass (thread : Nat) (elapsed : Bool)
  deriving DecidableEq

/-- What a move answers to the thread. -/
inductive Response where
  | done
  | seen (events : List NetworkEvent)
  | wait (status : WaitStatus)
  deriving DecidableEq

/-- What the log says about a response. -/
def Response.records : Response → List LogRecord
  | .wait (.awaited events) =>
    [⟨.debug, "Recorded " ++ toString events.length ++ " network events"⟩]
  | _ => []

namespace Recorder

/-- A recorder without events. -/
def empty : Recorder := ⟨[], []⟩

/-- The waiting thread of a number. -/
def waiter? (recorder : Recorder) (thread : Nat) : Option Waiter :=
  recorder.waiters.find? fun waiter => waiter.thread = thread

/-- The waiting threads without one of them. -/
def without (recorder : Recorder) (thread : Nat) : List Waiter :=
  recorder.waiters.filter fun waiter => waiter.thread ≠ thread

/-- A waiting thread's look at the events: it goes on waiting, or is done with it. -/
def passOf (recorder : Recorder) (waiter : Waiter) (elapsed : Bool) : Recorder × WaitStatus :=
  match waiter.request.pass elapsed recorder.events with
  | .waiting =>
    ({ recorder with
        waiters := ⟨waiter.thread, waiter.request, true⟩ :: recorder.without waiter.thread },
      .waiting)
  | status => ({ recorder with waiters := recorder.without waiter.thread }, status)

/-- What comes of a move; nothing if it is impossible, since the thread does not wait, waits already
or is parked. -/
def step (recorder : Recorder) : Move → Option (Recorder × Response)
  | .record _ event =>
    some (⟨recorder.events ++ [event],
      recorder.waiters.map fun waiter => { waiter with parked := false }⟩, .done)
  | .clear => some (⟨[], recorder.waiters⟩, .done)
  | .look => some (recorder, .seen recorder.events)
  | .enter thread request =>
    match recorder.waiter? thread, request.check with
    | some _, _ => none
    | none, .error e => some (recorder, .wait (.failed e))
    | none, .ok () =>
      some (⟨recorder.events, ⟨thread, request, false⟩ :: recorder.waiters⟩, .wait .waiting)
  | .wake thread =>
    match recorder.waiter? thread with
    | some waiter =>
      some (⟨recorder.events, { waiter with parked := false } :: recorder.without thread⟩, .done)
    | none => none
  | .pass thread elapsed =>
    match recorder.waiter? thread with
    | some waiter =>
      if waiter.parked then none
      else
        let (after, status) := recorder.passOf waiter elapsed
        some (after, .wait status)
    | none => none

/-- What comes of several moves, with the response to each; impossible ones are left out. -/
def run (recorder : Recorder) : List Move → Recorder × List (Move × Response)
  | [] => (recorder, [])
  | move :: moves =>
    match recorder.step move with
    | none => recorder.run moves
    | some (after, response) =>
      let (last, responses) := after.run moves
      (last, (move, response) :: responses)

variable {recorder after : Recorder} {move : Move} {response : Response}

/-! ## The outcomes of a move -/

/-- What comes of a move, outcome by outcome. -/
inductive Made (recorder : Recorder) : Move → Recorder → Response → Prop where
  | recorded (thread : Nat) (event : NetworkEvent) :
    Made recorder (.record thread event)
      ⟨recorder.events ++ [event],
        recorder.waiters.map fun waiter => { waiter with parked := false }⟩ .done
  | cleared : Made recorder .clear ⟨[], recorder.waiters⟩ .done
  | looked : Made recorder .look recorder (.seen recorder.events)
  | refused {thread : Nat} {request : WaitRequest} {error : WaitError}
    (idle : recorder.waiter? thread = none) (check : request.check = .error error) :
    Made recorder (.enter thread request) recorder (.wait (.failed error))
  | entered {thread : Nat} {request : WaitRequest} (idle : recorder.waiter? thread = none)
    (check : request.check = .ok ()) :
    Made recorder (.enter thread request)
      ⟨recorder.events, ⟨thread, request, false⟩ :: recorder.waiters⟩ (.wait .waiting)
  | woken {thread : Nat} {waiter : Waiter} (waits : recorder.waiter? thread = some waiter) :
    Made recorder (.wake thread)
      ⟨recorder.events, { waiter with parked := false } :: recorder.without thread⟩ .done
  | parked {thread : Nat} {elapsed : Bool} {waiter : Waiter}
    (waits : recorder.waiter? thread = some waiter) (awake : waiter.parked = false)
    (pass : waiter.request.pass elapsed recorder.events = .waiting) :
    Made recorder (.pass thread elapsed)
      ⟨recorder.events, ⟨thread, waiter.request, true⟩ :: recorder.without thread⟩
      (.wait .waiting)
  | ended {thread : Nat} {elapsed : Bool} {waiter : Waiter} {status : WaitStatus}
    (waits : recorder.waiter? thread = some waiter) (awake : waiter.parked = false)
    (pass : waiter.request.pass elapsed recorder.events = status) (closes : status ≠ .waiting) :
    Made recorder (.pass thread elapsed) ⟨recorder.events, recorder.without thread⟩
      (.wait status)

theorem thread_of_waiter? {thread : Nat} {waiter : Waiter}
    (h : recorder.waiter? thread = some waiter) : waiter.thread = thread := by
  simpa using List.find?_some h

theorem step_made (h : recorder.step move = some (after, response)) :
    Made recorder move after response := by
  cases move with
  | record thread event =>
    cases h
    exact .recorded thread event
  | clear =>
    cases h
    exact .cleared
  | look =>
    cases h
    exact .looked
  | enter thread request =>
    simp only [step] at h
    split at h
    · cases h
    · rename_i error hidle hcheck
      cases h
      exact .refused hidle hcheck
    · rename_i hidle hcheck
      cases h
      exact .entered hidle hcheck
  | wake thread =>
    simp only [step] at h
    split at h
    · rename_i waiter hwaits
      cases h
      exact .woken hwaits
    · cases h
  | pass thread elapsed =>
    simp only [step] at h
    split at h
    · rename_i waiter hwaits
      have hthread : waiter.thread = thread := thread_of_waiter? hwaits
      split at h
      · cases h
      · rename_i hawake
        rw [passOf, hthread] at h
        split at h
        · rename_i hpass
          cases h
          exact .parked hwaits (by simpa using hawake) hpass
        · rename_i hover
          cases h
          exact .ended hwaits (by simpa using hawake) rfl hover
    · cases h

/-- **The outcomes of a move** are those of the table. -/
theorem step_iff :
    recorder.step move = some (after, response) ↔ Made recorder move after response := by
  refine ⟨step_made, fun h => ?_⟩
  cases h with
  | recorded thread event => rfl
  | cleared => rfl
  | looked => rfl
  | refused idle check => simp [step, idle, check]
  | entered idle check => simp [step, idle, check]
  | woken waits => simp [step, waits]
  | parked waits awake pass =>
    simp [step, waits, awake, passOf, pass, thread_of_waiter? waits]
  | @ended thread elapsed waiter status waits awake pass closes =>
    cases status with
    | waiting => exact absurd rfl closes
    | awaited seen => simp [step, waits, awake, passOf, pass, thread_of_waiter? waits]
    | failed error => simp [step, waits, awake, passOf, pass, thread_of_waiter? waits]

/-! ## The threads that wait -/

section Waiters

variable (events : List NetworkEvent) (waiters : List Waiter) (thread other : Nat)

@[simp]
theorem waiter?_cons (waiter : Waiter) :
    waiter? ⟨events, waiter :: waiters⟩ thread =
      if waiter.thread = thread then some waiter else waiter? ⟨events, waiters⟩ thread := by
  by_cases h : waiter.thread = thread <;> simp [waiter?, h]

theorem waiter?_head (waiter : Waiter) :
    waiter? ⟨events, waiter :: waiters⟩ waiter.thread = some waiter := by
  simp

@[simp]
theorem waiter?_without :
    waiter? ⟨events, recorder.without other⟩ thread =
      if thread = other then none else recorder.waiter? thread := by
  unfold waiter? without
  rw [List.find?_filter]
  split
  · simp_all
  · rename_i hother
    congr 1
    funext waiter
    by_cases h : waiter.thread = thread <;> simp [h, hother]

@[simp]
theorem waiter?_wakeAll :
    waiter? ⟨events, recorder.waiters.map fun waiter => { waiter with parked := false }⟩ thread =
      (recorder.waiter? thread).map fun waiter => { waiter with parked := false } := by
  unfold waiter?
  rw [List.find?_map]
  rfl

end Waiters

/-! ## The history of the events -/

/-- The events after a move on the events alone. -/
def eventsAfter (events : List NetworkEvent) : Move → List NetworkEvent
  | .record _ event => events ++ [event]
  | .clear => []
  | _ => events

theorem step_events (h : recorder.step move = some (after, response)) :
    after.events = eventsAfter recorder.events move := by
  cases step_made h <;> rfl

/-- An impossible move leaves the events as they are. -/
theorem eventsAfter_of_step_eq_none (h : recorder.step move = none) (events : List NetworkEvent) :
    eventsAfter events move = events := by
  cases move <;> simp_all [step, eventsAfter]

theorem run_events (recorder : Recorder) (moves : List Move) :
    (recorder.run moves).1.events = moves.foldl eventsAfter recorder.events := by
  induction moves generalizing recorder with
  | nil => rfl
  | cons move moves ih =>
    unfold run
    cases hstep : recorder.step move with
    | none => simp [ih, eventsAfter_of_step_eq_none hstep]
    | some result =>
      obtain ⟨after, response⟩ := result
      simp [ih, step_events hstep]

/-! ## Woken up in time -/

/-- No parked thread has enough events. -/
def WokenUp (recorder : Recorder) : Prop :=
  ∀ waiter ∈ recorder.waiters, waiter.parked = true →
    Number.lt (.int recorder.events.length) waiter.request.count = true

theorem wokenUp_empty : WokenUp empty := by
  simp [WokenUp, empty]

theorem step_wokenUp (hwoken : WokenUp recorder)
    (h : recorder.step move = some (after, response)) : WokenUp after := by
  intro waiter hwaiter hparked
  cases step_made h with
  | recorded thread event =>
    obtain ⟨old, -, rfl⟩ := List.mem_map.1 hwaiter
    cases hparked
  | cleared => exact Number.lt_of_int_le (by simp) (hwoken waiter hwaiter hparked)
  | looked => exact hwoken waiter hwaiter hparked
  | refused idle check => exact hwoken waiter hwaiter hparked
  | entered idle check =>
    rcases List.mem_cons.1 hwaiter with rfl | hold
    · cases hparked
    · exact hwoken waiter hold hparked
  | woken waits =>
    rcases List.mem_cons.1 hwaiter with rfl | hold
    · cases hparked
    · exact hwoken waiter (List.mem_filter.1 hold).1 hparked
  | parked waits awake pass =>
    rcases List.mem_cons.1 hwaiter with rfl | hold
    · exact WaitRequest.lt_of_pass_waiting pass
    · exact hwoken waiter (List.mem_filter.1 hold).1 hparked
  | ended waits awake pass closes => exact hwoken waiter (List.mem_filter.1 hwaiter).1 hparked

theorem run_wokenUp (hwoken : WokenUp recorder) (moves : List Move) :
    WokenUp (recorder.run moves).1 := by
  induction moves generalizing recorder with
  | nil => exact hwoken
  | cons move moves ih =>
    unfold run
    split
    · exact ih hwoken
    · rename_i after response hstep
      exact ih (step_wokenUp hwoken hstep)

end Recorder

end NetTimeline
