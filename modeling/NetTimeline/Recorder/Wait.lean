import NetTimeline.Event.Basic
import NetTimeline.Number.Basic

/-!
# Waiting for events

Reference model of the checks and of one pass of the loop of `wait_for_events`. A wait asks for a
number of events within a number of seconds. `WaitRequest.check` says whether it
can be asked for at all, and `WaitRequest.pass` what one look at the recorded events makes of it.

Main statement: `WaitRequest.pass_awaited_iff` — a wait is over exactly if the events are not fewer
than asked for.
-/

set_option autoImplicit false

namespace NetTimeline

/-- How many events are waited for, and for how many seconds. -/
structure WaitRequest where
  count : Number
  timeout : Number
  deriving DecidableEq

/-- Why a wait fails. -/
inductive WaitError where
  /-- Less than one event is waited for. -/
  | countBelowOne (given : String)
  | timeoutNegative (given : String)
  /-- The time is over, and there are only so many events. -/
  | timedOut (wanted : String) (got : Nat) (timeout : String)
  /-- The time is beyond what a clock counts in nanoseconds. -/
  | timeoutTooLong
  /-- A number on the way has no value. -/
  | number (e : NumberError)
  deriving DecidableEq, Repr

def WaitError.message : WaitError → String
  | .countBelowOne given => "count must be at least 1, got " ++ given
  | .timeoutNegative given => "timeout must not be negative, got " ++ given
  | .timedOut wanted got timeout =>
    "Expected " ++ wanted ++ " network events, got " ++ toString got ++ " after " ++ timeout ++ "s"
  | .timeoutTooLong => "timestamp too large to convert to C _PyTime_t"
  | .number e => e.message

/-- What becomes of a wait at one look at the events. -/
inductive WaitStatus where
  | awaited (events : List NetworkEvent)
  | failed (error : WaitError)
  | waiting
  deriving DecidableEq

namespace WaitRequest

/-- The first number of nanoseconds that a clock does not count. -/
def clockLimit : Nat := 9223372036854775808

/-- Whether the time is beyond what a clock counts. -/
def isTooLong (request : WaitRequest) : Bool :=
  match request.timeout.place? with
  | some (.units n) => decide ((clockLimit * unitsPerOne : Nat) ≤ n * 1000000000)
  | some .positiveInfinity => true
  | _ => false

/-- Whether the time is over, given whether the clock has moved on by it. No time is over at once, a
NaN of seconds never. -/
def isOver (request : WaitRequest) (elapsed : Bool) : Bool :=
  request.timeout.le (.int 0) || (elapsed && request.timeout.place?.isSome && !request.isTooLong)

/-- An error that shows a number. -/
def showing (n : Number) (error : String → WaitError) : WaitError :=
  match n.text with
  | .ok text => error text
  | .error e => .number e

/-- The error of a wait whose time is over. -/
def timedOut (request : WaitRequest) (got : Nat) : WaitError :=
  showing request.count fun wanted => showing request.timeout fun timeout =>
    .timedOut wanted got timeout

/-- Whether the wait can be asked for. -/
def check (request : WaitRequest) : Except WaitError Unit :=
  if request.count.lt (.int 1) then .error (showing request.count .countBelowOne)
  else if request.timeout.lt (.int 0) then .error (showing request.timeout .timeoutNegative)
  else match request.timeout.toBinary64 with
    | .ok _ => .ok ()
    | .error e => .error (.number e)

/-- One look at the events: the wait is over if they are enough, fails if its time is over or too
long, and goes on otherwise. -/
def pass (request : WaitRequest) (elapsed : Bool) (events : List NetworkEvent) : WaitStatus :=
  if Number.lt (.int events.length) request.count then
    if request.isOver elapsed then .failed (request.timedOut events.length)
    else if request.isTooLong then .failed .timeoutTooLong
    else .waiting
  else .awaited events

theorem pass_awaited_iff {request : WaitRequest} {elapsed : Bool}
    {events seen : List NetworkEvent} :
    request.pass elapsed events = .awaited seen ↔
      Number.lt (.int events.length) request.count = false ∧ events = seen := by
  unfold pass
  split
  · rename_i h
    split
    · simp [h]
    · split <;> simp [h]
  · rename_i h
    simp [h]

theorem lt_of_pass_waiting {request : WaitRequest} {elapsed : Bool} {events : List NetworkEvent}
    (h : request.pass elapsed events = .waiting) :
    Number.lt (.int events.length) request.count = true := by
  unfold pass at h
  split at h
  · assumption
  · contradiction

end WaitRequest

end NetTimeline
