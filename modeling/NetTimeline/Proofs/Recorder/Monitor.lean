import NetTimeline.Proofs.Recorder.History
import NetTimeline.Proofs.Recorder.Request

/-!
# The wait loop, turn by turn

`Recorder.step` lets a thread look at the events and park in one move. Here the two are apart, and
so are being notified and waking up: a thread that has seen too few events still holds the recorder
when it turns to sleep, it lets go of it once it sleeps, and it wakes up after it has been notified,
when its time is over, or for no reason. Others get at the events only while no thread holds the
recorder.

Seen from outside, this is the recorder of `Recorder.step`: parking and waking up after a notice
change nothing that the threads are told, and every other turn is a move. That rests on the one
invariant `Held`: whoever is about to sleep holds the recorder, so that no event is recorded between
its look and its sleep.

Principal results:

* `Monitor.Step.held` and `Monitor.Run.held` — the invariant, of a turn and of a run;
* `Monitor.Run.lets_go` — whoever holds the recorder after a run can let go of it;
* `Monitor.Step.shown` and `Monitor.Run.shown` — a turn is a move of the recorder or cannot be seen
  from outside, and a run of turns is a run of moves with the same answers;
* `Monitor.exists_run` — the other way round, every run of moves can be played in turns;
* `Monitor.wait_safety` — what a wait returns, and what it fails with, is true of the events, and no
  thread sleeps through enough of them.
-/

set_option autoImplicit false

namespace NetTimeline

/-- How far a thread is with its wait. -/
inductive Stage where
  /-- It looks at the events as soon as nobody holds the recorder. -/
  | awake
  /-- It has seen too few events and still holds the recorder. -/
  | parking
  /-- It sleeps. -/
  | parked
  /-- It sleeps, and has been notified. -/
  | notified
  deriving DecidableEq

namespace Stage

/-- Whether the thread will not look again unless something wakes it up. -/
def needsWaking : Stage → Bool
  | .parking | .parked => true
  | .awake | .notified => false

/-- Whoever sleeps is notified. -/
def notify : Stage → Stage
  | .parked => .notified
  | stage => stage

end Stage

/-- A wait that has begun. -/
structure Wait where
  request : WaitRequest
  stage : Stage
  deriving DecidableEq

/-- The thread of a wait, as the recorder sees it. -/
def Wait.waiter (thread : Nat) (wait : Wait) : Waiter :=
  ⟨thread, wait.request, wait.stage.needsWaking⟩

/-- The recorded events, the waits by thread, and the thread that holds the recorder between two
turns. -/
structure Monitor where
  events : List NetworkEvent
  waits : Nat → Option Wait
  holder : Option Nat

/-- What a thread does, or what happens to it. -/
inductive Turn where
  | record (thread : Nat) (event : NetworkEvent)
  | clear
  | look
  | enter (thread : Nat) (request : WaitRequest)
  | pass (thread : Nat) (elapsed : Bool)
  /-- A thread lets go of the recorder and sleeps. -/
  | park (thread : Nat)
  /-- A thread that has been notified wakes up. -/
  | notice (thread : Nat)
  /-- The clock wakes a thread up. -/
  | expire (thread : Nat)
  /-- A thread wakes up for no reason. -/
  | stir (thread : Nat)
  deriving DecidableEq

/-- The move that a turn is for the recorder, if it is one. -/
def Turn.move? : Turn → Option Move
  | .record thread event => some (.record thread event)
  | .clear => some .clear
  | .look => some .look
  | .enter thread request => some (.enter thread request)
  | .pass thread elapsed => some (.pass thread elapsed)
  | .expire thread | .stir thread => some (.wake thread)
  | .park _ | .notice _ => none

namespace Monitor

/-- Nothing is recorded, and nobody waits. -/
def start : Monitor := ⟨[], fun _ => none, none⟩

/-- Another wait of a thread, or none. -/
def put (monitor : Monitor) (thread : Nat) (wait : Option Wait) : Nat → Option Wait :=
  fun other => if other = thread then wait else monitor.waits other

/-- What a turn does. The sections of the code that hold the recorder from their beginning to their
end take place only while no thread holds it. -/
inductive Step (monitor : Monitor) : Turn → Response → Monitor → Prop where
  | record (thread : Nat) (event : NetworkEvent) (free : monitor.holder = none) :
    Step monitor (.record thread event) .done
      ⟨monitor.events ++ [event],
        fun other => (monitor.waits other).map fun wait => ⟨wait.request, wait.stage.notify⟩, none⟩
  | clear (free : monitor.holder = none) :
    Step monitor .clear .done ⟨[], monitor.waits, none⟩
  | look (free : monitor.holder = none) : Step monitor .look (.seen monitor.events) monitor
  | refuse {thread : Nat} {request : WaitRequest} {error : WaitError}
    (idle : monitor.waits thread = none) (check : request.check = .error error) :
    Step monitor (.enter thread request) (.wait (.failed error)) monitor
  | enter {thread : Nat} {request : WaitRequest}
    (idle : monitor.waits thread = none) (check : request.check = .ok ()) :
    Step monitor (.enter thread request) (.wait .waiting)
      ⟨monitor.events, monitor.put thread (some ⟨request, .awake⟩), monitor.holder⟩
  | miss {thread : Nat} {request : WaitRequest} {elapsed : Bool}
    (waits : monitor.waits thread = some ⟨request, .awake⟩) (free : monitor.holder = none)
    (pass : request.pass elapsed monitor.events = .waiting) :
    Step monitor (.pass thread elapsed) (.wait .waiting)
      ⟨monitor.events, monitor.put thread (some ⟨request, .parking⟩), some thread⟩
  | finish {thread : Nat} {request : WaitRequest} {elapsed : Bool} {status : WaitStatus}
    (waits : monitor.waits thread = some ⟨request, .awake⟩) (free : monitor.holder = none)
    (pass : request.pass elapsed monitor.events = status) (closes : status ≠ .waiting) :
    Step monitor (.pass thread elapsed) (.wait status)
      ⟨monitor.events, monitor.put thread none, none⟩
  | park {thread : Nat} {request : WaitRequest}
    (waits : monitor.waits thread = some ⟨request, .parking⟩) :
    Step monitor (.park thread) .done
      ⟨monitor.events, monitor.put thread (some ⟨request, .parked⟩), none⟩
  | notice {thread : Nat} {request : WaitRequest}
    (waits : monitor.waits thread = some ⟨request, .notified⟩) :
    Step monitor (.notice thread) .done
      ⟨monitor.events, monitor.put thread (some ⟨request, .awake⟩), monitor.holder⟩
  | expire {thread : Nat} {request : WaitRequest}
    (waits : monitor.waits thread = some ⟨request, .parked⟩) :
    Step monitor (.expire thread) .done
      ⟨monitor.events, monitor.put thread (some ⟨request, .awake⟩), monitor.holder⟩
  | stir {thread : Nat} {request : WaitRequest}
    (waits : monitor.waits thread = some ⟨request, .parked⟩) :
    Step monitor (.stir thread) .done
      ⟨monitor.events, monitor.put thread (some ⟨request, .awake⟩), monitor.holder⟩

/-- Several turns in a row, with the answer to each. -/
inductive Run : Monitor → List (Turn × Response) → Monitor → Prop where
  | nil {monitor : Monitor} : Run monitor [] monitor
  | cons {monitor next last : Monitor} {turn : Turn} {response : Response}
    {story : List (Turn × Response)} (step : Step monitor turn response next)
    (rest : Run next story last) : Run monitor ((turn, response) :: story) last

variable {monitor next last : Monitor} {turn : Turn} {response : Response}
  {story : List (Turn × Response)} {recorder : Recorder}

/-! ## The recorder is held until the thread sleeps -/

/-- The recorder is held by the thread that is about to sleep, if there is one. -/
def Held (monitor : Monitor) : Prop :=
  ∀ thread, monitor.holder = some thread ↔
    ∃ request, monitor.waits thread = some ⟨request, .parking⟩

theorem held_start : Held start := by
  simp [Held, start]

/-- While nobody holds the recorder, nobody is about to sleep. -/
theorem Held.not_parking (h : Held monitor) (free : monitor.holder = none) {thread : Nat}
    {request : WaitRequest} : monitor.waits thread ≠ some ⟨request, .parking⟩ := by
  intro hwait
  have := (h thread).2 ⟨request, hwait⟩
  simp [free] at this

/-- The invariant is kept where neither the old nor the new wait of the one thread is parking. -/
theorem Held.put {events : List NetworkEvent} {thread : Nat} {wait : Option Wait}
    (h : Held monitor) (hold : ∀ request, monitor.waits thread ≠ some ⟨request, .parking⟩)
    (hnew : ∀ request, wait ≠ some ⟨request, .parking⟩) :
    Held ⟨events, monitor.put thread wait, monitor.holder⟩ := by
  intro other
  by_cases hother : other = thread
  · subst hother
    simp [Monitor.put, h other, hold, hnew]
  · simp [Monitor.put, hother, h other]

theorem Step.held (hstep : Step monitor turn response next) (h : Held monitor) : Held next := by
  cases hstep with
  | record thread event free =>
    -- nobody is parking before, and being notified makes nobody parking
    intro other
    have hnone : ∀ request, monitor.waits other ≠ some ⟨request, .parking⟩ := fun _ =>
      h.not_parking free
    rcases hwait : monitor.waits other with _ | ⟨request, stage⟩
    · simp [hwait]
    · cases stage <;> simp_all [Stage.notify]
  | clear free => exact free ▸ h
  | look free => exact h
  | refuse idle check => exact h
  | enter idle check => exact h.put (by simp [idle]) (by simp)
  | @miss thread request elapsed waits free pass =>
    intro other
    by_cases hother : other = thread
    · simp [put, hother]
    · have hnone : ∀ request, monitor.waits other ≠ some ⟨request, .parking⟩ := fun _ =>
        h.not_parking free
      simp [put, hother, Ne.symm hother, hnone]
  | finish waits free pass closes =>
    exact free ▸ h.put (by simp [waits]) (by simp)
  | @park thread request waits =>
    have hheld : monitor.holder = some thread := (h thread).2 ⟨request, waits⟩
    intro other
    by_cases hother : other = thread
    · simp [put, hother]
    · have hnone := h other
      rw [hheld] at hnone
      simp_all [put, Ne.symm hother]
  | notice waits => exact h.put (by simp [waits]) (by simp)
  | expire waits => exact h.put (by simp [waits]) (by simp)
  | stir waits => exact h.put (by simp [waits]) (by simp)

theorem Run.held (hrun : Run monitor story last) (h : Held monitor) : Held last := by
  induction hrun with
  | nil => exact h
  | cons step _ ih => exact ih (step.held h)

/-- Whoever holds the recorder after a run can let go of it. -/
theorem Run.lets_go (hrun : Run start story monitor) {thread : Nat}
    (hholder : monitor.holder = some thread) :
    ∃ next, Step monitor (.park thread) .done next ∧ next.holder = none := by
  obtain ⟨request, hwait⟩ := (hrun.held held_start thread).1 hholder
  exact ⟨_, .park hwait, rfl⟩

/-! ## The turns as moves -/

/-- What the recorder has of the monitor: the events, and of each wait whether it needs waking. -/
structure Shows (recorder : Recorder) (monitor : Monitor) : Prop where
  events : recorder.events = monitor.events
  waiter? : ∀ thread, recorder.waiter? thread = (monitor.waits thread).map (Wait.waiter thread)

theorem shows_start : Shows .empty start := ⟨rfl, fun _ => rfl⟩

/-- The moves among the turns, with the answer to each. -/
def moves (story : List (Turn × Response)) : List (Move × Response) :=
  story.filterMap fun answered => answered.1.move?.map (·, answered.2)

namespace Shows

variable {events : List NetworkEvent} {thread : Nat} {holder : Option Nat}

/-- One thread's wait is set, in front of the others'. -/
theorem put_without (h : Shows recorder monitor) (wait : Wait) :
    Shows ⟨monitor.events, wait.waiter thread :: recorder.without thread⟩
      ⟨monitor.events, monitor.put thread (some wait), holder⟩ where
  events := rfl
  waiter? := by
    intro other
    by_cases hother : other = thread
    · simp [Monitor.put, Wait.waiter, hother]
    · simp [Monitor.put, Wait.waiter, hother, Ne.symm hother, h.waiter? other]

/-- A thread begins to wait. -/
theorem enter (h : Shows recorder monitor) (request : WaitRequest) :
    Shows ⟨recorder.events, ⟨thread, request, false⟩ :: recorder.waiters⟩
      ⟨monitor.events, monitor.put thread (some ⟨request, .awake⟩), holder⟩ where
  events := h.events
  waiter? := by
    intro other
    by_cases hother : other = thread
    · simp [Monitor.put, Wait.waiter, Stage.needsWaking, hother]
    · simp [Monitor.put, hother, Ne.symm hother, h.waiter? other]

/-- One thread's wait is over. -/
theorem without (h : Shows recorder monitor) :
    Shows ⟨monitor.events, recorder.without thread⟩
      ⟨monitor.events, monitor.put thread none, holder⟩ where
  events := rfl
  waiter? := by
    intro other
    by_cases hother : other = thread
    · simp [Monitor.put, hother]
    · simp [Monitor.put, hother, h.waiter? other]

/-- A thread that need not be woken up is woken up. -/
theorem refresh {wait : Wait} (h : Shows recorder monitor)
    (hwait : monitor.waits thread = some wait) :
    Shows ⟨monitor.events, wait.waiter thread :: recorder.without thread⟩ monitor := by
  have hput : monitor.put thread (some wait) = monitor.waits := by
    funext other
    by_cases hother : other = thread <;> simp [Monitor.put, hother, hwait]
  have hshows : Shows ⟨monitor.events, wait.waiter thread :: recorder.without thread⟩
      ⟨monitor.events, monitor.put thread (some wait), monitor.holder⟩ := h.put_without wait
  rwa [hput] at hshows

/-- Setting a wait to another stage that needs waking as the old one does cannot be seen. -/
theorem put_same {wait old : Wait} (h : Shows recorder monitor)
    (hold : monitor.waits thread = some old) (hsame : wait.waiter thread = old.waiter thread) :
    Shows recorder ⟨monitor.events, monitor.put thread (some wait), holder⟩ where
  events := h.events
  waiter? := by
    intro other
    by_cases hother : other = thread
    · simp [Monitor.put, hother, h.waiter? thread, hold, hsame]
    · simp [Monitor.put, hother, h.waiter? other]

/-- All who sleep are notified; since nobody holds the recorder, nobody is just about to sleep. -/
theorem notify (hheld : Held monitor) (hfree : monitor.holder = none) (h : Shows recorder monitor)
    (events : List NetworkEvent) :
    Shows ⟨events, recorder.waiters.map fun waiter => { waiter with parked := false }⟩
      ⟨events, fun other => (monitor.waits other).map fun wait =>
        ⟨wait.request, wait.stage.notify⟩, none⟩ where
  events := rfl
  waiter? := by
    intro other
    rw [Recorder.waiter?_wakeAll, h.waiter? other]
    dsimp only
    cases hwait : monitor.waits other with
    | none => rfl
    | some wait =>
      obtain ⟨request, stage⟩ := wait
      cases stage with
      | parking => exact absurd hwait (hheld.not_parking hfree)
      | awake => rfl
      | parked => rfl
      | notified => rfl

end Shows

/-- A turn is a move with the same answer, or cannot be seen from outside. -/
theorem Step.shown (hstep : Step monitor turn response next) (hheld : Held monitor)
    (h : Shows recorder monitor) :
    (∃ move after, turn.move? = some move ∧ Recorder.Made recorder move after response ∧
      Shows after next) ∨
    turn.move? = none ∧ Shows recorder next := by
  have hevents : recorder.events = monitor.events := h.events
  have hwaits {thread : Nat} {wait : Wait} (hw : monitor.waits thread = some wait) :
      recorder.waiter? thread = some (wait.waiter thread) := by rw [h.waiter?, hw]; rfl
  cases hstep with
  | record thread event free =>
    refine .inl ⟨_, _, rfl, .recorded thread event, ?_⟩
    rw [hevents]
    exact h.notify hheld free _
  | clear free => exact .inl ⟨_, _, rfl, .cleared, ⟨rfl, h.waiter?⟩⟩
  | look free => exact .inl ⟨_, _, rfl, hevents ▸ .looked, h⟩
  | @refuse thread request error idle check =>
    have hidle : recorder.waiter? thread = none := by rw [h.waiter?, idle]; rfl
    exact .inl ⟨_, _, rfl, .refused hidle check, h⟩
  | @enter thread request idle check =>
    have hidle : recorder.waiter? thread = none := by rw [h.waiter?, idle]; rfl
    exact .inl ⟨_, _, rfl, .entered hidle check, h.enter request⟩
  | miss waits free pass =>
    refine .inl ⟨_, _, rfl, .parked (hwaits waits) rfl (by rw [hevents]; exact pass), ?_⟩
    rw [hevents]
    exact h.put_without ⟨_, .parking⟩
  | finish waits free pass closes =>
    refine .inl ⟨_, _, rfl, .ended (hwaits waits) rfl (by rw [hevents]; exact pass) closes, ?_⟩
    rw [hevents]
    exact h.without
  | park waits => exact .inr ⟨rfl, h.put_same waits rfl⟩
  | notice waits => exact .inr ⟨rfl, h.put_same waits rfl⟩
  | expire waits =>
    refine .inl ⟨_, _, rfl, .woken (hwaits waits), ?_⟩
    rw [hevents]
    exact h.put_without ⟨_, .awake⟩
  | stir waits =>
    refine .inl ⟨_, _, rfl, .woken (hwaits waits), ?_⟩
    rw [hevents]
    exact h.put_without ⟨_, .awake⟩

/-- A run of turns is a run of moves with the same answers. -/
theorem Run.shown (hrun : Run monitor story last) (hheld : Held monitor)
    (h : Shows recorder monitor) :
    ∃ after, recorder.run ((moves story).map Prod.fst) = (after, moves story) ∧
      Shows after last := by
  induction hrun generalizing recorder with
  | nil => exact ⟨recorder, rfl, h⟩
  | @cons monitor next last turn response story step rest ih =>
    obtain ⟨move, between, hmove, hmade, hshows⟩ | ⟨hmove, hshows⟩ := step.shown hheld h
    · obtain ⟨after, hafter, hlast⟩ := ih (step.held hheld) hshows
      have hmoves : moves ((turn, response) :: story) = (move, response) :: moves story := by
        simp [moves, hmove]
      refine ⟨after, ?_, hlast⟩
      rw [hmoves, List.map_cons, Recorder.run, Recorder.step_iff.2 hmade]
      simp only [hafter]
    · obtain ⟨after, hafter, hlast⟩ := ih (step.held hheld) hshows
      have hmoves : moves ((turn, response) :: story) = moves story := by simp [moves, hmove]
      exact ⟨after, by rw [hmoves, hafter], hlast⟩

/-! ## The moves as turns -/

/-- Whether a move only wakes up a thread. -/
def isWake : Move → Bool
  | .wake _ => true
  | _ => false

/-- The recorder is what the monitor shows, and nobody is about to sleep. -/
structure Settled (recorder : Recorder) (monitor : Monitor) : Prop where
  shows : Shows recorder monitor
  held : Held monitor
  free : monitor.holder = none

theorem settled_start : Settled .empty start := ⟨shows_start, held_start, rfl⟩

theorem Run.append {between : Monitor} {later : List (Turn × Response)}
    (hrun : Run monitor story between) (hlater : Run between later last) :
    Run monitor (story ++ later) last := by
  induction hrun with
  | nil => exact hlater
  | cons step _ ih => exact .cons step (ih hlater)

theorem moves_append (story later : List (Turn × Response)) :
    moves (story ++ later) = moves story ++ moves later :=
  List.filterMap_append

namespace Settled

variable {after : Recorder} {move : Move}

/-- After one turn that is the move, and leaves nobody about to sleep. -/
theorem single (h : Settled recorder monitor)
    (hstep : Step monitor turn response next) (hmove : turn.move? = some move)
    (hshows : Shows after next) (hfree : next.holder = none) :
    ∃ story last, Run monitor story last ∧ Settled after last ∧ moves story = [(move, response)] :=
  ⟨[(turn, response)], next, .cons hstep .nil, ⟨hshows, hstep.held h.held, hfree⟩,
    by simp [moves, hmove]⟩

theorem waits (h : Settled recorder monitor) {thread : Nat} {waiter : Waiter}
    (hwaits : recorder.waiter? thread = some waiter) :
    ∃ wait, monitor.waits thread = some wait ∧ waiter = wait.waiter thread ∧
      wait.stage ≠ .parking := by
  obtain ⟨wait, hwait, rfl⟩ := Option.map_eq_some_iff.1 ((h.shows.waiter? thread).symm.trans hwaits)
  refine ⟨wait, hwait, rfl, fun hparking => ?_⟩
  obtain ⟨request, stage⟩ := wait
  cases hparking
  exact h.held.not_parking h.free hwait

/-- A thread that need not be woken up is awake, at the latest after it has noticed. -/
theorem awaken (h : Settled recorder monitor) {thread : Nat} {waiter : Waiter}
    (hwaits : recorder.waiter? thread = some waiter) (hawake : waiter.parked = false) :
    ∃ story last, Run monitor story last ∧ Settled recorder last ∧ moves story = [] ∧
      last.waits thread = some ⟨waiter.request, .awake⟩ := by
  obtain ⟨⟨request, stage⟩, hwait, rfl, hparking⟩ := h.waits hwaits
  cases stage with
  | awake => exact ⟨[], monitor, .nil, h, rfl, hwait⟩
  | parking => exact absurd rfl hparking
  | parked => cases hawake
  | notified =>
    have hstep : Step monitor (.notice thread) .done _ := .notice hwait
    exact ⟨_, _, .cons hstep .nil, ⟨h.shows.put_same hwait rfl, hstep.held h.held, h.free⟩, rfl,
      by simp [put, Wait.waiter]⟩

/-- A move can be played in turns, or it wakes up a thread that need not be woken up. -/
theorem play (h : Settled recorder monitor) (hmade : Recorder.Made recorder move after response) :
    (∃ story last, Run monitor story last ∧ Settled after last ∧
      moves story = [(move, response)]) ∨
    (∃ thread, move = .wake thread) ∧ Settled after monitor := by
  have hevents : recorder.events = monitor.events := h.shows.events
  have hidle {thread : Nat} (hnone : recorder.waiter? thread = none) :
      monitor.waits thread = none := by
    simpa [h.shows.waiter?] using hnone
  cases hmade with
  | recorded thread event =>
    rw [hevents]
    exact .inl (h.single (.record thread event h.free) rfl (h.shows.notify h.held h.free _) rfl)
  | cleared => exact .inl (h.single (.clear h.free) rfl ⟨rfl, h.shows.waiter?⟩ rfl)
  | looked =>
    rw [hevents]
    exact .inl (h.single (.look h.free) rfl h.shows h.free)
  | refused idle check =>
    exact .inl (h.single (.refuse (hidle idle) check) rfl h.shows h.free)
  | @entered thread request idle check =>
    exact .inl (h.single (.enter (hidle idle) check) rfl (h.shows.enter request) h.free)
  | @woken thread waiter waits =>
    obtain ⟨⟨request, stage⟩, hwait, rfl, hparking⟩ := h.waits waits
    rw [hevents]
    cases stage with
    | parking => exact absurd rfl hparking
    | parked =>
      exact .inl (h.single (.expire hwait) rfl (h.shows.put_without ⟨request, .awake⟩) h.free)
    | awake => exact .inr ⟨⟨thread, rfl⟩, h.shows.refresh hwait, h.held, h.free⟩
    | notified => exact .inr ⟨⟨thread, rfl⟩, h.shows.refresh hwait, h.held, h.free⟩
  | @parked thread elapsed waiter waits awake pass =>
    -- the move is played in two turns at least, so that nobody is left about to sleep
    obtain ⟨story, between, hrun, hbetween, hmoves, hwait⟩ := h.awaken waits awake
    rw [hbetween.shows.events] at pass ⊢
    have hmiss : Step between (.pass thread elapsed) (.wait .waiting) _ :=
      .miss hwait hbetween.free pass
    have hparking : between.put thread (some ⟨waiter.request, .parking⟩) thread =
        some ⟨waiter.request, .parking⟩ := by simp [put]
    have hpark : Step ⟨between.events, between.put thread (some ⟨waiter.request, .parking⟩),
        some thread⟩ (.park thread) .done _ := .park hparking
    have hshows : Shows _ ⟨between.events,
        between.put thread (some ⟨waiter.request, .parking⟩), some thread⟩ :=
      hbetween.shows.put_without ⟨waiter.request, .parking⟩
    refine .inl ⟨_, _, hrun.append (.cons hmiss (.cons hpark .nil)),
      ⟨hshows.put_same hparking rfl, hpark.held (hmiss.held hbetween.held), rfl⟩, ?_⟩
    rw [moves_append, hmoves]
    rfl
  | @ended thread elapsed waiter status waits awake pass closes =>
    obtain ⟨story, between, hrun, hbetween, hmoves, hwait⟩ := h.awaken waits awake
    rw [hbetween.shows.events] at pass ⊢
    have hfinish : Step between (.pass thread elapsed) (.wait status) _ :=
      .finish hwait hbetween.free pass closes
    refine .inl ⟨_, _, hrun.append (.cons hfinish .nil),
      ⟨hbetween.shows.without, hfinish.held hbetween.held, rfl⟩, ?_⟩
    rw [moves_append, hmoves]
    rfl

/-- A run of moves can be played in turns, with the same answers to all but the wake-ups. -/
theorem play_run (h : Settled recorder monitor) (todo : List Move) :
    ∃ story last, Run monitor story last ∧ Settled (recorder.run todo).1 last ∧
      (moves story).filter (fun answered => !isWake answered.1) =
        (recorder.run todo).2.filter (fun answered => !isWake answered.1) := by
  induction todo generalizing recorder monitor with
  | nil => exact ⟨[], monitor, .nil, h, rfl⟩
  | cons move todo ih =>
    unfold Recorder.run
    split
    · exact ih h
    · rename_i after response hstep
      obtain ⟨story, between, hrun, hbetween, hmoves⟩ | ⟨⟨thread, rfl⟩, hafter⟩ :=
        h.play (Recorder.step_iff.1 hstep)
      · obtain ⟨later, last, hlater, hlast, hanswers⟩ := ih hbetween
        refine ⟨story ++ later, last, hrun.append hlater, hlast, ?_⟩
        rw [moves_append, hmoves, List.singleton_append, List.filter_cons, List.filter_cons,
          hanswers]
      · obtain ⟨later, last, hlater, hlast, hanswers⟩ := ih hafter
        exact ⟨later, last, hlater, hlast, hanswers⟩

end Settled

/-- Every run of the recorder is one of the monitor, seen from outside. -/
theorem exists_run (todo : List Move) :
    ∃ story last, Run start story last ∧ Shows (Recorder.empty.run todo).1 last ∧
      (moves story).filter (fun answered => !isWake answered.1) =
        (Recorder.empty.run todo).2.filter (fun answered => !isWake answered.1) := by
  obtain ⟨story, last, hrun, hlast, hanswers⟩ := settled_start.play_run todo
  exact ⟨story, last, hrun, hlast.shows, hanswers⟩

/-! ## Safety of waiting -/

/-- An answer that ends a wait, other than by refusing it, is what a look of the waiting thread
makes of the events at that moment. -/
theorem Step.ended {status : WaitStatus} (hstep : Step monitor turn (.wait status) next)
    (hover : status ≠ .waiting)
    (hlooked : ∀ request : WaitRequest, ∀ error, request.check = .error error →
      status ≠ .failed error) :
    ∃ thread elapsed request, turn = .pass thread elapsed ∧
      monitor.waits thread = some ⟨request, .awake⟩ ∧ next.waits thread = none ∧
      next.events = monitor.events ∧ request.pass elapsed monitor.events = status := by
  cases hstep with
  | refuse idle check => exact absurd rfl (hlooked _ _ check)
  | enter idle check => exact absurd rfl hover
  | miss waits free pass => exact absurd rfl hover
  | finish waits free pass closes => exact ⟨_, _, _, rfl, waits, by simp [put], rfl, pass⟩

/-- No thread that needs waking has enough events. -/
theorem Run.few (hrun : Run start story monitor) {thread : Nat} {wait : Wait} {count : Int}
    (hwait : monitor.waits thread = some wait) (hneeds : wait.stage.needsWaking = true)
    (hcount : wait.request.count = .int count) : monitor.events.length < count := by
  obtain ⟨recorder, hafter, hshows⟩ := hrun.shown held_start shows_start
  have hwoken : Recorder.WokenUp recorder := by
    have := Recorder.run_wokenUp Recorder.wokenUp_empty ((moves story).map Prod.fst)
    rwa [hafter] at this
  have hmem : wait.waiter thread ∈ recorder.waiters := by
    apply List.mem_of_find?_eq_some
    exact (hshows.waiter? thread).trans (by rw [hwait]; rfl)
  have hlt := hwoken _ hmem hneeds
  rwa [hshows.events, Wait.waiter, hcount, Number.lt_int_int, decide_eq_true_eq] at hlt

/-- **Safety of waiting.** Any run of turns, of any threads and in any order, is a run of the
recorder's moves with the same answers. After it, no thread that needs waking has as many events as
it waits for. Whatever turn follows, if it ends a wait with events, these are all that there are at
that moment, and they are enough; if it ends a wait with a timeout, they are too few, and the
message tells their number. -/
theorem wait_safety (hrun : Run start story monitor) :
    (∃ recorder, Recorder.empty.run ((moves story).map Prod.fst) = (recorder, moves story) ∧
      Shows recorder monitor) ∧
    (∀ thread wait (count : Int), monitor.waits thread = some wait →
      wait.stage.needsWaking = true → wait.request.count = .int count →
        monitor.events.length < count) ∧
    ∀ turn response next, Step monitor turn response next →
      (∀ seen, response = .wait (.awaited seen) → ∃ thread elapsed request,
        turn = .pass thread elapsed ∧ monitor.waits thread = some ⟨request, .awake⟩ ∧
        next.waits thread = none ∧ next.events = monitor.events ∧ seen = monitor.events ∧
        ∀ count : Int, request.count = .int count → count ≤ monitor.events.length) ∧
      (∀ wanted got text, response = .wait (.failed (.timedOut wanted got text)) →
        ∃ thread elapsed request,
        turn = .pass thread elapsed ∧ monitor.waits thread = some ⟨request, .awake⟩ ∧
        next.waits thread = none ∧ next.events = monitor.events ∧ got = monitor.events.length ∧
        ∀ count : Int, request.count = .int count →
          wanted = intNumeral count ∧ monitor.events.length < count) := by
  refine ⟨hrun.shown held_start shows_start,
    fun thread wait count hwait hneeds hcount => hrun.few hwait hneeds hcount, ?_⟩
  intro turn response next hstep
  constructor
  · rintro seen rfl
    obtain ⟨thread, elapsed, request, rfl, hwaits, hgone, hevents, hpass⟩ :=
      hstep.ended (by simp) (by simp)
    obtain ⟨hseen, henough⟩ := WaitRequest.enough_of_awaited hpass
    exact ⟨thread, elapsed, request, rfl, hwaits, hgone, hevents, hseen, henough⟩
  · rintro wanted got text rfl
    have hlooked (request : WaitRequest) (error : WaitError)
        (hcheck : request.check = .error error) :
        WaitStatus.failed (.timedOut wanted got text) ≠ .failed error := by
      rintro ⟨⟩
      exact WaitRequest.check_ne_timedOut hcheck
    obtain ⟨thread, elapsed, request, rfl, hwaits, hgone, hevents, hpass⟩ :=
      hstep.ended (by simp) hlooked
    obtain ⟨hgot, hfew⟩ := WaitRequest.few_of_timedOut hpass
    exact ⟨thread, elapsed, request, rfl, hwaits, hgone, hevents, hgot, hfew⟩

/-- A wait for so many events, within a second. -/
def within (count : Int) : WaitRequest := ⟨.int count, .int 1⟩

theorem within_check {count : Int} (h : 1 ≤ count) : (within count).check = .ok () := by
  obtain ⟨-, hcheck⟩ | ⟨hlarge, -⟩ :=
    WaitRequest.check_eq (show (within count).count = .int count from rfl) h
      (show Number.le (.int 0) (.int 1) = true by decide +kernel)
  · exact hcheck
  · exact absurd (Nat.lt_trans (by decide) pow_lt_wholeBound) hlarge

/-- The turns of a run in which two threads sleep when an event is recorded, which is cleared before
they look. -/
def clearedStory : List (Turn × Response) :=
  [(.enter 1 (within 1), .wait .waiting), (.enter 2 (within 2), .wait .waiting),
    (.pass 1 false, .wait .waiting), (.park 1, .done),
    (.pass 2 false, .wait .waiting), (.park 2, .done),
    (.record 4 (Memory.instant "first"), .done), (.clear, .done),
    (.record 4 (Memory.instant "second"), .done),
    (.notice 2, .done), (.pass 2 false, .wait .waiting), (.park 2, .done),
    (.notice 1, .done), (.enter 3 (within 3), .wait .waiting)]

theorem run_clearedStory : ∃ monitor, Run start clearedStory monitor ∧
    monitor.events = [Memory.instant "second"] ∧ monitor.holder = none ∧
    monitor.waits 1 = some ⟨within 1, .awake⟩ ∧ monitor.waits 2 = some ⟨within 2, .parked⟩ ∧
    monitor.waits 3 = some ⟨within 3, .awake⟩ := by
  refine ⟨_, .cons (.enter rfl (within_check (by decide))) <|
    .cons (.enter rfl (within_check (by decide))) <|
    .cons (.miss rfl rfl (by decide +kernel)) <| .cons (.park rfl) <|
    .cons (.miss rfl rfl (by decide +kernel)) <| .cons (.park rfl) <|
    .cons (.record 4 _ rfl) <| .cons (.clear rfl) <| .cons (.record 4 _ rfl) <|
    .cons (.notice rfl) <| .cons (.miss rfl rfl (by decide +kernel)) <| .cons (.park rfl) <|
    .cons (.notice rfl) <| .cons (.enter rfl (within_check (by decide))) .nil, ?_⟩
  exact ⟨rfl, rfl, rfl, rfl, rfl⟩

/-- Then one thread gets the event recorded since, another sleeps for want of a second one, and a
third one's time is over. -/
theorem wait_safety_cleared : ∃ monitor, Run start clearedStory monitor ∧
    monitor.events.length < (2 : Int) ∧
    (∃ next, Step monitor (.pass 1 false) (.wait (.awaited [Memory.instant "second"])) next ∧
      next.waits 1 = none) ∧
    ∃ next, Step monitor (.pass 3 true) (.wait (.failed (.timedOut "3" 1 "1"))) next ∧
      next.waits 3 = none := by
  obtain ⟨monitor, hrun, hevents, hfree, hfirst, hsecond, hthird⟩ := run_clearedStory
  obtain ⟨-, hfew, hturn⟩ := wait_safety hrun
  have hawaited : Step monitor (.pass 1 false) (.wait (.awaited [Memory.instant "second"])) _ :=
    .finish hfirst hfree (by rw [hevents]; decide +kernel) (by simp)
  have htimedOut : Step monitor (.pass 3 true) (.wait (.failed (.timedOut "3" 1 "1"))) _ :=
    .finish hthird hfree (by rw [hevents]; decide +kernel) (by simp)
  obtain ⟨_, _, _, hpass, -, hgone, -⟩ := (hturn _ _ _ hawaited).1 _ rfl
  obtain ⟨_, _, _, hpass', -, hgone', -⟩ := (hturn _ _ _ htimedOut).2 _ _ _ rfl
  cases hpass
  cases hpass'
  exact ⟨monitor, hrun, hfew 2 _ 2 hsecond rfl rfl, ⟨_, hawaited, hgone⟩, ⟨_, htimedOut, hgone'⟩⟩

end Monitor

end NetTimeline
