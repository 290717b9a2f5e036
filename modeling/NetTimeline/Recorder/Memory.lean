import NetTimeline.Recorder.Threads
import NetTimeline.Timeline

/-!
# A recorder in memory

Reference model of the lists of a `NetworkEventRecorder`. It keeps its events in one list, which it
changes in place: an event is added to it, and clearing empties it. Whoever asks for the events is
handed another list, a copy. `Memory` holds all these lists by number, and `Memory.step` says what
an action does to them: a move of a thread, or taking the span or the axis of the events, for which
they are copied, too.

Main statements: `Memory.step_view` — apart from the lists that are handed out, a move in memory is
`Recorder.step`; `Memory.content_copy` and `Memory.getElem?_copy` — a copy has the events of the
recorder's own list, which stays as it is; `Memory.step_span` and `Memory.step_axis` — the span and
the axis are those of the recorder's own list.
-/

set_option autoImplicit false

namespace NetTimeline

/-- Lists by number, one of which is the recorder's own, and the threads that wait. -/
structure Memory where
  lists : List (List NetworkEvent)
  own : Nat
  own_lt : own < lists.length
  waiters : List Waiter

/-- What is done with a recorder. -/
inductive Action where
  | move (move : Move)
  | span
  | axis (request : TickRequest)
  deriving DecidableEq

/-- What an action answers; lists are handed out by number. -/
inductive Reply where
  | done
  | seen (list : Nat)
  | awaited (list : Nat)
  | failed (error : WaitError)
  | waiting
  | span (x : Binary64)
  | axis (axis : Logged AxisError Axis)

/-- The list that a reply hands out. -/
def Reply.list? : Reply → Option Nat
  | .seen list => some list
  | .awaited list => some list
  | _ => none

namespace Memory

/-- A recorder without events. -/
def start : Memory := ⟨[[]], 0, by decide, []⟩

/-- The recorder's own list. -/
def content (memory : Memory) : List NetworkEvent := memory.lists.get ⟨memory.own, memory.own_lt⟩

/-- The recorder as the threads see it. -/
def view (memory : Memory) : Recorder := ⟨memory.content, memory.waiters⟩

/-- The events of a list. -/
def events (memory : Memory) (list : Nat) : List NetworkEvent := (memory.lists[list]?).getD []

/-- The recorder's own list, changed in place. -/
def write (memory : Memory) (events : List NetworkEvent) : Memory where
  lists := memory.lists.set memory.own events
  own := memory.own
  own_lt := by simpa using memory.own_lt
  waiters := memory.waiters

/-- Another list with the events of the recorder's own. -/
def copy (memory : Memory) : Memory where
  lists := memory.lists ++ [memory.content]
  own := memory.own
  own_lt := by simpa using Nat.lt_succ_of_lt memory.own_lt
  waiters := memory.waiters

/-- The number that the next copy gets. -/
def nextList (memory : Memory) : Nat := memory.lists.length

/-- What a move does to the recorder's own list. -/
def change (memory : Memory) : Move → Memory
  | .record _ event => memory.write (memory.content ++ [event])
  | .clear => memory.write []
  | _ => memory

/-- The threads that wait after a move. -/
def park (memory : Memory) (waiters : List Waiter) : Memory := { memory with waiters := waiters }

/-- The answer to a thread, with a copy of the events if it is to have them. -/
def answer (memory : Memory) : Response → Memory × Reply
  | .done => (memory, .done)
  | .seen _ => (memory.copy, .seen memory.nextList)
  | .wait (.awaited _) => (memory.copy, .awaited memory.nextList)
  | .wait (.failed e) => (memory, .failed e)
  | .wait .waiting => (memory, .waiting)

/-- What comes of an action; nothing if it is a move that is impossible. -/
def step (memory : Memory) : Action → Option (Memory × Reply)
  | .move move =>
    (memory.view.step move).map fun (after, response) =>
      ((memory.change move).park after.waiters).answer response
  | .span => some (memory.copy, .span (eventSpan (memory.copy.events memory.nextList)))
  | .axis request =>
    some (memory.copy, .axis (axisOfEvents (memory.copy.events memory.nextList) request))

/-- What comes of several actions, with the reply to each; impossible ones are left out. -/
def run (memory : Memory) : List Action → Memory × List (Action × Reply)
  | [] => (memory, [])
  | action :: actions =>
    match memory.step action with
    | none => memory.run actions
    | some (after, reply) =>
      let (last, replies) := after.run actions
      (last, (action, reply) :: replies)

/-! ## The recorder's own list -/

variable {memory after : Memory}

@[simp]
theorem content_write (memory : Memory) (events : List NetworkEvent) :
    (memory.write events).content = events := by
  simp [content, write]

@[simp]
theorem content_copy (memory : Memory) : memory.copy.content = memory.content := by
  simp [content, copy, List.getElem_append_left memory.own_lt]

@[simp]
theorem content_park (memory : Memory) (waiters : List Waiter) :
    (memory.park waiters).content = memory.content := rfl

/-- A copy has the events of the recorder's own list. -/
theorem getElem?_copy (memory : Memory) :
    memory.copy.lists[memory.nextList]? = some memory.content := by
  simp [copy, nextList]

theorem events_copy (memory : Memory) : memory.copy.events memory.nextList = memory.content := by
  rw [events, getElem?_copy]
  rfl

/-- The span is that of the recorder's own list. -/
theorem step_span (memory : Memory) :
    memory.step .span = some (memory.copy, .span (eventSpan memory.content)) := by
  rw [step, events_copy]

/-- The axis is that of the recorder's own list. -/
theorem step_axis (memory : Memory) (request : TickRequest) :
    memory.step (.axis request) =
      some (memory.copy, .axis (axisOfEvents memory.content request)) := by
  rw [step, events_copy]

@[simp]
theorem content_change (memory : Memory) (move : Move) :
    (memory.change move).content = Recorder.eventsAfter memory.content move := by
  cases move <;> simp [change, Recorder.eventsAfter]

@[simp]
theorem content_answer (memory : Memory) (response : Response) :
    (memory.answer response).1.content = memory.content := by
  rcases response with _ | _ | (_ | _ | _) <;> simp [answer]

@[simp]
theorem waiters_answer (memory : Memory) (response : Response) :
    (memory.answer response).1.waiters = memory.waiters := by
  rcases response with _ | _ | (_ | _ | _) <;> rfl

/-- What a step consists of: a move as the threads see it, the change that goes with it and the
answer to it, or else a copy that is not handed out. -/
theorem step_cases {action : Action} {reply : Reply}
    (h : memory.step action = some (after, reply)) :
    (∃ move recorder response, action = .move move ∧
      memory.view.step move = some (recorder, response) ∧
      ((memory.change move).park recorder.waiters).answer response = (after, reply)) ∨
    ((∀ move, action ≠ .move move) ∧ after = memory.copy ∧ reply.list? = none) := by
  cases action with
  | move move =>
    obtain ⟨⟨recorder, response⟩, hstep, hanswer⟩ := Option.map_eq_some_iff.1 h
    exact .inl ⟨move, recorder, response, rfl, hstep, hanswer⟩
  | span =>
    cases h
    exact .inr ⟨by simp, rfl, rfl⟩
  | axis request =>
    cases h
    exact .inr ⟨by simp, rfl, rfl⟩

/-- **A move in memory is a move of the recorder**, as the threads see it. -/
theorem step_view {move : Move} {reply : Reply}
    (h : memory.step (.move move) = some (after, reply)) :
    ∃ response, memory.view.step move = some (after.view, response) := by
  obtain ⟨_, recorder, response, hmove, hstep, hanswer⟩ | ⟨hother, -⟩ := step_cases h
  · cases hmove
    have hevents : recorder.events = Recorder.eventsAfter memory.content move :=
      Recorder.step_events hstep
    have hafter : (((memory.change move).park recorder.waiters).answer response).1 = after :=
      congrArg Prod.fst hanswer
    refine ⟨response, ?_⟩
    rw [hstep, ← hafter, view, waiters_answer, content_answer, content_park, content_change,
      ← hevents]
    rfl
  · exact absurd rfl (hother move)

end Memory

end NetTimeline
