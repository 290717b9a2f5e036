import NetTimeline.Proofs.Recorder.History
import NetTimeline.Proofs.Recorder.Request
import NetTimeline.Recorder.Await

/-!
# How a wait can end

A thread begins to wait, and whatever the other threads do then, the wait ends as the thread's looks
have it: what became of it is a function of the events that each look finds and of whether the time
was over by then. From this the ways in which a wait for a whole number of events can end are read
off: with enough events or with a timeout, but also with three failures that are neither. A time
beyond the finite values is refused even if the events are there; a time beyond what a clock counts
fails at the first look that finds too few; and a number of events with too many digits for the
message makes the timeout itself fail.

Principal results:

* `Recorder.ending_run` — what becomes of a wait in a run, as a function of the thread's looks;
* `Recorder.wait_outcome` — the ways in which a wait ends, and when it ends in each of them;
* `Recorder.await_status` — a wait during which events arrive is such a run.
-/

set_option autoImplicit false

namespace NetTimeline

/-- What a waiting thread finds when it looks: the events, and whether its time is over. -/
structure Look where
  events : List NetworkEvent
  elapsed : Bool
  deriving DecidableEq

namespace WaitRequest

variable {request : WaitRequest} {looks : List Look} {count : Int} {elapsed : Bool}
  {events : List NetworkEvent}

/-- What becomes of a wait that has been let in. -/
def afterLooks (request : WaitRequest) : List Look → WaitStatus
  | [] => .waiting
  | look :: looks =>
    match request.pass look.elapsed look.events with
    | .waiting => request.afterLooks looks
    | status => status

/-- What becomes of a wait. -/
def outcome (request : WaitRequest) (looks : List Look) : WaitStatus :=
  match request.check with
  | .ok () => request.afterLooks looks
  | .error error => .failed error

/-- The first look that does not leave the thread waiting. -/
def endingLook? (request : WaitRequest) (looks : List Look) : Option Look :=
  looks.find? fun look => request.pass look.elapsed look.events ≠ .waiting

theorem afterLooks_cons_of_waiting (h : request.pass elapsed events = .waiting) :
    request.afterLooks (⟨events, elapsed⟩ :: looks) = request.afterLooks looks := by
  simp only [afterLooks, h]

theorem afterLooks_cons_of_ne (h : request.pass elapsed events ≠ .waiting) :
    request.afterLooks (⟨events, elapsed⟩ :: looks) = request.pass elapsed events := by
  simp only [afterLooks]

/-- A wait goes on as long as every look leaves the thread waiting, and ends at the first that does
not. -/
theorem afterLooks_cases (request : WaitRequest) (looks : List Look) :
    (request.afterLooks looks = .waiting ∧
      ∀ look ∈ looks, request.pass look.elapsed look.events = .waiting) ∨
    ∃ look, request.endingLook? looks = some look ∧
      request.pass look.elapsed look.events ≠ .waiting ∧
      request.afterLooks looks = request.pass look.elapsed look.events := by
  induction looks with
  | nil => exact .inl ⟨rfl, by simp⟩
  | cons look looks ih =>
    by_cases hlook : request.pass look.elapsed look.events = .waiting
    · rw [afterLooks_cons_of_waiting hlook]
      have hrest : request.endingLook? (look :: looks) = request.endingLook? looks := by
        simp [endingLook?, hlook]
      rw [hrest]
      refine ih.imp (fun h => ⟨h.1, ?_⟩) id
      simpa [hlook] using h.2
    · exact .inr ⟨look, by simp [endingLook?, hlook], hlook, afterLooks_cons_of_ne hlook⟩

end WaitRequest

/-- The thread that a move lets wait or look. -/
def Move.waiting? : Move → Option Nat
  | .enter thread _ | .pass thread _ => some thread
  | _ => none

namespace Recorder

variable {recorder after : Recorder} {move : Move} {response : Response} {thread : Nat}
  {request : WaitRequest}

/-! ## A wait in a run -/

/-- What a move finds, if it is a look of the thread. -/
def look? (thread : Nat) (recorder : Recorder) : Move → Option Look
  | .pass other elapsed => if other = thread then some ⟨recorder.events, elapsed⟩ else none
  | _ => none

/-- What the looks of a thread find in a run. -/
def looks (thread : Nat) (recorder : Recorder) : List Move → List Look
  | [] => []
  | move :: moves =>
    match recorder.step move with
    | none => recorder.looks thread moves
    | some (after, _) => (recorder.look? thread move).toList ++ after.looks thread moves

/-- What a thread's wait ends with, if the answer ends it. -/
def ends? (thread : Nat) : Move × Response → Option WaitStatus
  | (move, .wait status) =>
    if move.waiting? = some thread ∧ status ≠ .waiting then some status else none
  | _ => none

/-- What a thread's wait ends with. -/
def ending (thread : Nat) (answers : List (Move × Response)) : WaitStatus :=
  (answers.findSome? (ends? thread)).getD .waiting

/-- What becomes of the wait that a thread begins, in a run that goes on with some moves. -/
def waitEnd (recorder : Recorder) (thread : Nat) (request : WaitRequest) (moves : List Move) :
    WaitStatus :=
  ending thread (recorder.run (.enter thread request :: moves)).2

/-- What the looks of that wait find. -/
def waitLooks (recorder : Recorder) (thread : Nat) (request : WaitRequest) (moves : List Move) :
    List Look :=
  recorder.looks thread (.enter thread request :: moves)

theorem look?_of_other (hother : move.waiting? ≠ some thread) :
    recorder.look? thread move = none := by
  cases move with
  | pass other elapsed => exact if_neg fun h => hother (congrArg some h)
  | _ => rfl

theorem look?_pass {elapsed : Bool} :
    recorder.look? thread (.pass thread elapsed) = some ⟨recorder.events, elapsed⟩ :=
  if_pos rfl

theorem ends?_own {status : WaitStatus} (hmine : move.waiting? = some thread)
    (closes : status ≠ .waiting) : ends? thread (move, .wait status) = some status :=
  if_pos ⟨hmine, closes⟩

theorem ends?_waiting : ends? thread (move, .wait .waiting) = none :=
  if_neg fun h => h.2 rfl

theorem ends?_of_other (hother : move.waiting? ≠ some thread) :
    ends? thread (move, response) = none := by
  cases response with
  | wait status => exact if_neg fun h => hother h.1
  | _ => rfl

/-- No move of others ends a thread's wait or changes what it asks for. -/
theorem Made.keeps {waiter : Waiter} (h : Made recorder move after response)
    (hwaits : recorder.waiter? thread = some waiter) (hother : move.waiting? ≠ some thread) :
    ∃ later, after.waiter? thread = some later ∧ later.request = waiter.request := by
  have hne {other : Nat} (h : some other ≠ some thread) : other ≠ thread :=
    fun heq => h (congrArg some heq)
  cases h with
  | recorded other event => exact ⟨{ waiter with parked := false }, by simp [hwaits], rfl⟩
  | cleared => exact ⟨waiter, hwaits, rfl⟩
  | looked => exact ⟨waiter, hwaits, rfl⟩
  | refused idle check => exact ⟨waiter, hwaits, rfl⟩
  | entered idle check => exact ⟨waiter, by simp [hne hother, hwaits], rfl⟩
  | @woken other woken waits =>
    by_cases hthread : other = thread
    · subst hthread
      obtain rfl := Option.some.inj (waits.symm.trans hwaits)
      exact ⟨{ woken with parked := false }, by simp [thread_of_waiter? waits], rfl⟩
    · exact ⟨waiter, by simp [thread_of_waiter? waits, hthread, Ne.symm hthread, hwaits], rfl⟩
  | parked waits awake pass =>
    exact ⟨waiter, by simp [hne hother, (hne hother).symm, hwaits], rfl⟩
  | ended waits awake pass closes => exact ⟨waiter, by simp [(hne hother).symm, hwaits], rfl⟩

theorem run_cons_of_none (thread : Nat) (moves : List Move) (hstep : recorder.step move = none) :
    recorder.run (move :: moves) = recorder.run moves ∧
      recorder.looks thread (move :: moves) = recorder.looks thread moves := by
  rw [run, looks, hstep]
  exact ⟨rfl, rfl⟩

theorem looks_cons {moves : List Move} (hstep : recorder.step move = some (after, response)) :
    recorder.looks thread (move :: moves) =
      (recorder.look? thread move).toList ++ after.looks thread moves := by
  rw [looks, hstep]

theorem ending_cons {moves : List Move} (hstep : recorder.step move = some (after, response)) :
    ending thread (recorder.run (move :: moves)).2 =
      (ends? thread (move, response)).getD (ending thread (after.run moves).2) := by
  rw [run, hstep]
  simp only [ending, List.findSome?_cons]
  cases ends? thread (move, response) <;> rfl

/-- What becomes of a wait in a run is a function of what the thread's looks find. -/
theorem ending_run {waiter : Waiter} (hwaits : recorder.waiter? thread = some waiter)
    (moves : List Move) :
    ending thread (recorder.run moves).2 =
      waiter.request.afterLooks (recorder.looks thread moves) := by
  -- carried by the moves of others: the thread goes on waiting for the same
  induction moves generalizing recorder waiter with
  | nil => rfl
  | cons move moves ih =>
    rcases hstep : recorder.step move with _ | ⟨after, response⟩
    · obtain ⟨hrun, hlooks⟩ := run_cons_of_none thread moves hstep
      rw [hrun, hlooks]
      exact ih hwaits
    rw [ending_cons hstep, looks_cons hstep]
    have hmade : Made recorder move after response := step_made hstep
    by_cases hmine : move.waiting? = some thread
    · cases hmade with
      | recorded other event => cases hmine
      | cleared => cases hmine
      | looked => cases hmine
      | woken waits => cases hmine
      | refused idle check =>
        cases hmine
        rw [hwaits] at idle
        cases idle
      | entered idle check =>
        cases hmine
        rw [hwaits] at idle
        cases idle
      | @parked other elapsed looking waits awake pass =>
        cases hmine
        obtain rfl := Option.some.inj (waits.symm.trans hwaits)
        rw [look?_pass, ends?_waiting]
        exact (ih (waiter?_head _ _ ⟨thread, looking.request, true⟩)).trans
          (WaitRequest.afterLooks_cons_of_waiting pass).symm
      | @ended other elapsed looking status waits awake pass closes =>
        cases hmine
        obtain rfl := Option.some.inj (waits.symm.trans hwaits)
        subst pass
        rw [look?_pass, ends?_own rfl closes]
        exact (WaitRequest.afterLooks_cons_of_ne closes).symm
    · obtain ⟨later, hlater, hrequest⟩ := hmade.keeps hwaits hmine
      rw [ends?_of_other hmine, look?_of_other hmine, ← hrequest]
      exact ih hlater

theorem waitEnd_eq (hidle : recorder.waiter? thread = none) (moves : List Move) :
    recorder.waitEnd thread request moves =
      request.outcome (recorder.waitLooks thread request moves) := by
  unfold waitEnd waitLooks WaitRequest.outcome
  cases hcheck : request.check with
  | error error =>
    have hstep := step_iff.2 (.refused hidle hcheck)
    rw [ending_cons hstep, ends?_own rfl (by simp)]
    rfl
  | ok _ =>
    have hstep := step_iff.2 (.entered hidle hcheck)
    rw [ending_cons hstep, looks_cons hstep, ends?_waiting]
    exact ending_run (waiter?_head _ _ ⟨thread, request, false⟩) moves

/-! ## The ways to end -/

/-- **How a wait ends**, in any run that goes on from any recorder. It goes on as long as every look
finds too few events in time, and otherwise the first look that does not decides. It ends with
enough events or with a timeout, unless one of three things is the case: the time is a whole number
beyond the finite values, which is refused even if there are enough events; there are too few and
the time is beyond what a clock counts; or the message of the timeout cannot be written. -/
theorem wait_outcome (recorder : Recorder) (thread : Nat) (request : WaitRequest)
    (moves : List Move) {count : Int} (hidle : recorder.waiter? thread = none)
    (hcount : request.count = .int count) (hone : 1 ≤ count)
    (htimeout : Number.le (.int 0) request.timeout = true) :
    (¬ request.timeout.Converts ∧
      recorder.waitEnd thread request moves = .failed (.number .wholeTooLarge)) ∨
    request.timeout.Converts ∧
      ((recorder.waitEnd thread request moves = .waiting ∧
          ∀ look ∈ recorder.waitLooks thread request moves,
            look.events.length < count ∧ look.elapsed = false ∧ request.isTooLong = false) ∨
        ∃ look, request.endingLook? (recorder.waitLooks thread request moves) = some look ∧
          request.Ended count look.elapsed look.events
            (recorder.waitEnd thread request moves)) := by
  rw [waitEnd_eq hidle, WaitRequest.outcome]
  obtain ⟨hc, hcheck⟩ | ⟨hc, hcheck⟩ := WaitRequest.check_eq hcount hone htimeout
  · rw [hcheck]
    refine .inr ⟨hc, ?_⟩
    obtain ⟨hwaiting, hlooks⟩ | ⟨look, hlook, hends, hstatus⟩ :=
      request.afterLooks_cases (recorder.waitLooks thread request moves)
    · exact .inl ⟨hwaiting, fun look hlook =>
        WaitRequest.on_time_of_waiting hcount htimeout (hlooks look hlook)⟩
    · refine .inr ⟨look, hlook, ?_⟩
      rw [hstatus]
      exact WaitRequest.ended_int hcount hc hends
  · rw [hcheck]
    exact .inl ⟨hc, rfl⟩

/-- A wait for one event that has been recorded already, within `10 ^ 400` seconds, fails, and so
does a wait without an end while nothing has been recorded. -/
theorem wait_outcome_longTimes :
    waitEnd ⟨[Memory.instant "there"], []⟩ 1 ⟨.int 1, .int (10 ^ 400)⟩ [.pass 1 false] =
        .failed (.number .wholeTooLarge) ∧
      waitEnd empty 1 ⟨.int 1, .float (.infinite false)⟩ [.pass 1 false] =
        .failed .timeoutTooLong := by
  constructor
  · have hlarge : ¬ (Number.int (10 ^ 400)).Converts := by
      show ¬ (10 ^ 400 : Int).natAbs < wholeBound
      decide +kernel
    obtain ⟨-, h⟩ | ⟨hc, -⟩ :=
      wait_outcome ⟨[Memory.instant "there"], []⟩ 1 ⟨.int 1, .int (10 ^ 400)⟩ [.pass 1 false]
        rfl rfl (by decide) (by decide +kernel)
    · exact h
    · exact absurd hc hlarge
  · have hlong : WaitRequest.isTooLong ⟨.int 1, .float (.infinite false)⟩ = true := rfl
    have hlooks : waitLooks empty 1 ⟨.int 1, .float (.infinite false)⟩ [.pass 1 false] =
        [⟨[], false⟩] := by decide +kernel
    have h := wait_outcome empty 1 ⟨.int 1, .float (.infinite false)⟩ [.pass 1 false]
      rfl rfl (by decide) (by decide +kernel)
    rw [hlooks] at h
    obtain ⟨hc, -⟩ | ⟨-, ⟨-, hwaiting⟩ | ⟨look, hlook, hended⟩⟩ := h
    · exact absurd trivial hc
    · have hshort := (hwaiting _ (List.mem_singleton.2 rfl)).2.2
      rw [hlong] at hshort
      cases hshort
    · obtain rfl := List.mem_singleton.1 (List.mem_of_find?_eq_some hlook)
      generalize waitEnd empty 1 ⟨.int 1, .float (.infinite false)⟩ [.pass 1 false] = status
        at hended ⊢
      cases hended with
      | enough henough => cases henough
      | late hfew hshort => cases hlong.symm.trans hshort
      | unwritable hfew hshort => cases hlong.symm.trans hshort
      | uncounted hfew hlong => rfl

/-! ## A wait during which events arrive -/

/-- Nobody begins to wait, and nobody but the thread looks. -/
def Alone (thread : Nat) (moves : List Move) : Prop :=
  ∀ move ∈ moves, ∀ other, move.waiting? = some other → ∃ elapsed, move = .pass thread elapsed

theorem Made.silent (h : Made recorder move after response)
    (hidle : recorder.waiter? thread = none)
    (halone : ∀ other, move.waiting? = some other → ∃ elapsed, move = .pass thread elapsed) :
    after.waiter? thread = none ∧ ∀ status, response ≠ .wait status := by
  cases h with
  | recorded other event => exact ⟨by simp [hidle], by simp⟩
  | cleared => exact ⟨hidle, by simp⟩
  | looked => exact ⟨hidle, by simp⟩
  | refused idle check =>
    obtain ⟨elapsed, hpass⟩ := halone _ rfl
    cases hpass
  | entered idle check =>
    obtain ⟨elapsed, hpass⟩ := halone _ rfl
    cases hpass
  | @woken other woken waits =>
    have hother : other ≠ thread := by
      rintro rfl
      rw [hidle] at waits
      cases waits
    exact ⟨by simp [thread_of_waiter? waits, hother, hother.symm, hidle], by simp⟩
  | parked waits awake pass =>
    obtain ⟨elapsed, hpass⟩ := halone _ rfl
    cases hpass
    rw [hidle] at waits
    cases waits
  | ended waits awake pass closes =>
    obtain ⟨elapsed, hpass⟩ := halone _ rfl
    cases hpass
    rw [hidle] at waits
    cases waits

/-- Nobody is told anything about a wait once there is none. -/
theorem run_silent {moves : List Move} (hidle : recorder.waiter? thread = none)
    (halone : Alone thread moves) :
    ∀ answer ∈ (recorder.run moves).2, ∀ status, answer.2 ≠ .wait status := by
  induction moves generalizing recorder with
  | nil => simp [run]
  | cons move moves ih =>
    obtain ⟨hmove, hmoves⟩ := List.forall_mem_cons.1 halone
    unfold run
    split
    · exact ih hidle hmoves
    · rename_i after response hstep
      obtain ⟨hafter, hresponse⟩ := (step_made hstep).silent hidle hmove
      exact List.forall_mem_cons.2 ⟨hresponse, ih hafter hmoves⟩

theorem lastStatus_of_silent (move : Move) {answers : List (Move × Response)} {status : WaitStatus}
    (h : ∀ answer ∈ answers, ∀ later, answer.2 ≠ .wait later) :
    lastStatus ((move, .wait status) :: answers) = status := by
  unfold lastStatus
  rw [List.foldl_cons]
  induction answers with
  | nil => rfl
  | cons answer answers ih =>
    obtain ⟨hanswer, hanswers⟩ := List.forall_mem_cons.1 h
    obtain ⟨_, response⟩ := answer
    cases response with
    | wait later => exact absurd rfl (hanswer later)
    | done => exact ih hanswers
    | seen events => exact ih hanswers

/-- The last answer to a thread that nobody else waits beside is the first that ends its wait. -/
theorem lastStatus_run {waiter : Waiter} {moves : List Move}
    (hwaits : recorder.waiter? thread = some waiter) (halone : Alone thread moves) :
    lastStatus (recorder.run moves).2 = ending thread (recorder.run moves).2 := by
  induction moves generalizing recorder waiter with
  | nil => rfl
  | cons move moves ih =>
    obtain ⟨hmove, hmoves⟩ := List.forall_mem_cons.1 halone
    rcases hstep : recorder.step move with _ | ⟨after, response⟩
    · rw [(run_cons_of_none thread moves hstep).1]
      exact ih hwaits hmoves
    rw [ending_cons hstep, run, hstep]
    have hmade : Made recorder move after response := step_made hstep
    have hrest (hother : move.waiting? ≠ some thread) :
        lastStatus (after.run moves).2 = ending thread (after.run moves).2 := by
      obtain ⟨later, hlater, -⟩ := hmade.keeps hwaits hother
      exact ih hlater hmoves
    cases hmade with
    | recorded other event => exact hrest (by simp [Move.waiting?])
    | cleared => exact hrest (by simp [Move.waiting?])
    | looked => exact hrest (by simp [Move.waiting?])
    | woken waits => exact hrest (by simp [Move.waiting?])
    | refused idle check =>
      obtain ⟨elapsed, hpass⟩ := hmove _ rfl
      cases hpass
    | entered idle check =>
      obtain ⟨elapsed, hpass⟩ := hmove _ rfl
      cases hpass
    | @parked other elapsed looking waits awake pass =>
      obtain ⟨elapsed, hpass⟩ := hmove _ rfl
      cases hpass
      rw [ends?_waiting]
      exact ih (waiter?_head _ _ ⟨thread, looking.request, true⟩) hmoves
    | ended waits awake pass closes =>
      obtain ⟨elapsed, hpass⟩ := hmove _ rfl
      cases hpass
      rw [ends?_own rfl closes]
      exact lastStatus_of_silent _ (run_silent (by simp) hmoves)

/-- **What a wait during which events arrive comes to** is how it ends in the run. -/
theorem await_status (hidle : recorder.waiter? 0 = none) (arrivals : List NetworkEvent) :
    (recorder.await request arrivals).2 =
      recorder.waitEnd 0 request (awaitMoves request arrivals).tail := by
  have halone : Alone 0 (awaitMoves request arrivals).tail := by
    intro move hmem other hother
    simp only [awaitMoves, List.cons_append, List.tail_cons, List.mem_cons, List.mem_append,
      List.mem_map, List.not_mem_nil, or_false, List.nil_append] at hmem
    obtain rfl | ⟨event, -, rfl⟩ | rfl | rfl := hmem
    · exact ⟨false, rfl⟩
    · cases hother
    · cases hother
    · exact ⟨true, rfl⟩
  unfold waitEnd await
  have hmoves : awaitMoves request arrivals =
      .enter 0 request :: (awaitMoves request arrivals).tail := rfl
  rw [hmoves]
  generalize (awaitMoves request arrivals).tail = moves at halone
  cases hcheck : request.check with
  | error error =>
    have hstep := step_iff.2 (.refused hidle hcheck)
    rw [ending_cons hstep, run, hstep, ends?_own rfl (by simp)]
    exact lastStatus_of_silent (.enter 0 request) (run_silent hidle halone)
  | ok _ =>
    have hstep := step_iff.2 (.entered hidle hcheck)
    rw [ending_cons hstep, run, hstep, ends?_waiting]
    exact lastStatus_run (waiter?_head _ _ ⟨0, request, false⟩) halone

end Recorder

end NetTimeline
