import Mathlib.Data.List.Induction
import NetTimeline.Recorder.Memory

/-!
# The history of a recorder

Whatever the threads do with a recorder, and in whichever order they have it to themselves, its own
list holds the events recorded since it was last cleared, and nothing but recording and clearing
changes it. The lists that are handed out are never written to.

The proof has two invariants of a step. `Memory.Keeps` says that every list but the recorder's own
stays as it is; `Memory.step_content` says what becomes of the own one. Both pass to runs by
induction on the actions.

Principal results:

* `Memory.run_keeps` — no run changes a list that was handed out before it;
* `Memory.run_content` — the events after a run, as a fold over its actions;
* `Memory.run_history` — the history of any run, with the order of each thread's events.
-/

set_option autoImplicit false

namespace NetTimeline

/-! ## Recorded events -/

namespace Action

/-- The event that an action records, and the thread that records it. -/
def recorded? : Action → Option (Nat × NetworkEvent)
  | .move (.record thread event) => some (thread, event)
  | _ => none

/-- The events after an action on the events alone. -/
def eventsAfter (events : List NetworkEvent) : Action → List NetworkEvent
  | .move made => Recorder.eventsAfter events made
  | _ => events

/-- The three kinds of actions: one records an event, one clears, and all others leave the events
as they are. -/
theorem kinds (action : Action) :
    (∃ thread event, action = .move (.record thread event)) ∨ action = .move .clear ∨
      action ≠ .move .clear ∧ action.recorded? = none ∧
        ∀ events, eventsAfter events action = events := by
  cases action with
  | move made =>
    cases made with
    | record thread event => exact .inl ⟨thread, event, rfl⟩
    | clear => exact .inr (.inl rfl)
    | look => exact .inr (.inr ⟨by simp, rfl, fun _ => rfl⟩)
    | enter thread request => exact .inr (.inr ⟨by simp, rfl, fun _ => rfl⟩)
    | wake thread => exact .inr (.inr ⟨by simp, rfl, fun _ => rfl⟩)
    | pass thread elapsed => exact .inr (.inr ⟨by simp, rfl, fun _ => rfl⟩)
  | span => exact .inr (.inr ⟨by simp, rfl, fun _ => rfl⟩)
  | axis request => exact .inr (.inr ⟨by simp, rfl, fun _ => rfl⟩)

end Action

/-- The actions since the recorder was last cleared. -/
def sinceClear (actions : List Action) : List Action :=
  (actions.reverse.takeWhile fun action => action ≠ .move .clear).reverse

theorem sinceClear_suffix (actions : List Action) : sinceClear actions <:+ actions := by
  rw [sinceClear, ← List.reverse_prefix, List.reverse_reverse]
  exact List.takeWhile_prefix _

theorem sinceClear_append (actions : List Action) (action : Action) :
    sinceClear (actions ++ [action]) =
      if action = .move .clear then [] else sinceClear actions ++ [action] := by
  by_cases h : action = .move .clear <;> simp [sinceClear, h]

/-- The events of a thread, in the order in which they were recorded. -/
def ofThread (thread : Nat) (recorded : List (Nat × NetworkEvent)) : List NetworkEvent :=
  (recorded.filter fun entry => entry.1 = thread).map Prod.snd

namespace Memory

variable {memory after : Memory} {action : Action} {reply : Reply}

/-! ## The lists that are handed out -/

/-- Every list but the recorder's own stays as it is. -/
structure Keeps (before after : Memory) : Prop where
  own : after.own = before.own
  length : before.lists.length ≤ after.lists.length
  list : ∀ list < before.lists.length, list ≠ before.own → after.lists[list]? = before.lists[list]?

namespace Keeps

theorem refl (memory : Memory) : Keeps memory memory := ⟨rfl, Nat.le_refl _, fun _ _ _ => rfl⟩

theorem trans {first second third : Memory} (h : Keeps first second) (h' : Keeps second third) :
    Keeps first third where
  own := h'.own.trans h.own
  length := Nat.le_trans h.length h'.length
  list := by
    intro list hlist hother
    have hsecond : list ≠ second.own := by rwa [h.own]
    rw [h'.list list (Nat.lt_of_lt_of_le hlist h.length) hsecond, h.list list hlist hother]

theorem write (memory : Memory) (events : List NetworkEvent) :
    Keeps memory (memory.write events) where
  own := rfl
  length := by simp [Memory.write]
  list := fun list _ hother => List.getElem?_set_ne (Ne.symm hother)

theorem copy (memory : Memory) : Keeps memory memory.copy where
  own := rfl
  length := by simp [Memory.copy]
  list := fun list hlist _ => List.getElem?_append_left hlist

theorem change (memory : Memory) (move : Move) : Keeps memory (memory.change move) := by
  cases move with
  | record thread event => exact write memory _
  | clear => exact write memory _
  | look => exact refl memory
  | enter thread request => exact refl memory
  | wake thread => exact refl memory
  | pass thread elapsed => exact refl memory

theorem park (memory : Memory) (waiters : List Waiter) : Keeps memory (memory.park waiters) :=
  ⟨rfl, Nat.le_refl _, fun _ _ _ => rfl⟩

theorem answer (memory : Memory) (response : Response) :
    Keeps memory (memory.answer response).1 := by
  rcases response with _ | _ | (_ | _ | _)
  · exact refl memory
  · exact copy memory
  · exact copy memory
  · exact refl memory
  · exact refl memory

end Keeps

theorem step_keeps (h : memory.step action = some (after, reply)) : Keeps memory after := by
  obtain ⟨move, recorder, response, -, -, hanswer⟩ | ⟨-, rfl, -⟩ := step_cases h
  · have hkeeps := ((Keeps.change memory move).trans (Keeps.park _ recorder.waiters)).trans
      (Keeps.answer _ response)
    rwa [hanswer] at hkeeps
  · exact Keeps.copy memory

theorem run_keeps (memory : Memory) (actions : List Action) :
    Keeps memory (memory.run actions).1 := by
  induction actions generalizing memory with
  | nil => exact Keeps.refl memory
  | cons action actions ih =>
    unfold run
    split
    · exact ih memory
    · rename_i after reply hstep
      exact (step_keeps hstep).trans (ih after)

theorem answer_list {response : Response} {list : Nat}
    (h : (memory.answer response).2.list? = some list) :
    list = memory.nextList ∧ (memory.answer response).1 = memory.copy := by
  rcases response with _ | _ | (_ | _ | _)
  · cases h
  · cases h
    exact ⟨rfl, rfl⟩
  · cases h
    exact ⟨rfl, rfl⟩
  · cases h
  · cases h

/-- Only a move that leaves the events as they are is answered with a list. -/
theorem eventsAfter_of_list {first second : Recorder} {other : Memory} {move : Move}
    {response : Response} {list : Nat} (hstep : first.step move = some (second, response))
    (h : (other.answer response).2.list? = some list) (events : List NetworkEvent) :
    Recorder.eventsAfter events move = events := by
  cases move with
  | record thread event =>
    cases hstep
    cases h
  | clear =>
    cases hstep
    cases h
  | look => rfl
  | enter thread request => rfl
  | wake thread => rfl
  | pass thread elapsed => rfl

/-- A list that is handed out is not the recorder's own, and has its events. -/
theorem step_list {list : Nat} (h : memory.step action = some (after, reply))
    (hlist : reply.list? = some list) :
    list ≠ after.own ∧ list < after.lists.length ∧ after.lists[list]? = some memory.content := by
  obtain ⟨move, recorder, response, -, hstep, hanswer⟩ | ⟨-, -, hnone⟩ := step_cases h
  · have hreply : (((memory.change move).park recorder.waiters).answer response).2.list? =
        some list := by rw [hanswer, hlist]
    have hcontent : ((memory.change move).park recorder.waiters).content = memory.content := by
      rw [content_park, content_change, eventsAfter_of_list hstep hreply]
    obtain ⟨rfl, hcopy⟩ := answer_list hreply
    have hafter : after = ((memory.change move).park recorder.waiters).copy := by
      rw [← hcopy, hanswer]
    rw [hafter]
    refine ⟨(Nat.ne_of_lt (own_lt _)).symm, ?_, ?_⟩
    · simp [copy, nextList]
    · rw [getElem?_copy, hcontent]
  · rw [hnone] at hlist
    cases hlist

/-! ## The recorder's own list -/

theorem step_content (h : memory.step action = some (after, reply)) :
    after.content = action.eventsAfter memory.content := by
  obtain ⟨move, recorder, response, rfl, -, hanswer⟩ | ⟨hother, rfl, -⟩ := step_cases h
  · have hcontent := content_answer ((memory.change move).park recorder.waiters) response
    rwa [hanswer, content_park, content_change] at hcontent
  · cases action with
    | move move => exact absurd rfl (hother move)
    | span => exact content_copy memory
    | axis request => exact content_copy memory

/-- An impossible action is none that changes the events. -/
theorem eventsAfter_of_step_eq_none (h : memory.step action = none) (events : List NetworkEvent) :
    action.eventsAfter events = events := by
  cases action with
  | move move =>
    exact Recorder.eventsAfter_of_step_eq_none (Option.map_eq_none_iff.1 h) events
  | span => rfl
  | axis request => rfl

theorem run_content (memory : Memory) (actions : List Action) :
    (memory.run actions).1.content = actions.foldl Action.eventsAfter memory.content := by
  induction actions generalizing memory with
  | nil => rfl
  | cons action actions ih =>
    unfold run
    split
    · rename_i hnone
      rw [ih, List.foldl_cons, eventsAfter_of_step_eq_none hnone]
    · rename_i after reply hstep
      rw [List.foldl_cons, ← step_content hstep]
      exact ih after

end Memory

theorem foldl_eventsAfter_sinceClear (actions : List Action) :
    actions.foldl Action.eventsAfter [] =
      ((sinceClear actions).filterMap Action.recorded?).map Prod.snd := by
  -- From the end, since that is where clearing cuts the actions off.
  induction actions using List.reverseRecOn with
  | nil => rfl
  | append_singleton actions action ih =>
    rw [List.foldl_append, List.foldl_cons, List.foldl_nil, ih, sinceClear_append]
    rcases action.kinds with ⟨thread, event, rfl⟩ | rfl | ⟨hclear, hrecorded, hsame⟩
    · simp [Action.eventsAfter, Recorder.eventsAfter, Action.recorded?]
    · rfl
    · rw [if_neg hclear, hsame, List.filterMap_append, List.filterMap_cons_none hrecorded]
      simp

namespace Memory

/-- **The history of a recorder.** After any run, its own list holds the events recorded since it
was last cleared, in order and each once, and of each thread the last part of what it recorded, in
the thread's own order. Whatever step follows, a list that it hands out is another one, has the
events of that moment and never changes; and only recording and clearing change the own one. -/
theorem run_history (actions : List Action) :
    (start.run actions).1.content =
        ((sinceClear actions).filterMap Action.recorded?).map Prod.snd ∧
      (∀ thread, ofThread thread ((sinceClear actions).filterMap Action.recorded?) <:+
        ofThread thread (actions.filterMap Action.recorded?)) ∧
      ∀ action after reply, (start.run actions).1.step action = some (after, reply) →
        (∀ list, reply.list? = some list → list ≠ after.own ∧
          after.lists[list]? = some (start.run actions).1.content ∧
          ∀ later, (after.run later).1.lists[list]? = some (start.run actions).1.content) ∧
        ((∀ thread event, action ≠ .move (.record thread event)) → action ≠ .move .clear →
          after.content = (start.run actions).1.content) := by
  refine ⟨?_, fun thread => ?_, fun action after reply hstep => ⟨fun list hlist => ?_, ?_⟩⟩
  · rw [run_content, ← foldl_eventsAfter_sinceClear]
    rfl
  · exact (((sinceClear_suffix actions).filterMap _).filter _).map _
  · obtain ⟨hother, hlt, hevents⟩ := step_list hstep hlist
    refine ⟨hother, hevents, fun later => ?_⟩
    rw [(run_keeps after later).list list hlt hother, hevents]
  · intro hrecord hclear
    rw [step_content hstep]
    rcases action.kinds with ⟨thread, event, haction⟩ | haction | ⟨-, -, hsame⟩
    · exact absurd haction (hrecord thread event)
    · exact absurd haction hclear
    · exact hsame _

/-- A request that takes no time. -/
def instant (id : String) : NetworkEvent where
  startTime := ⟨false, .zero⟩
  endTime := ⟨false, .zero⟩
  id := some id
  url := none
  method := "GET"
  status := none
  inOrder := Int.le_refl _

/-- Two threads record events, while a third one waits in vain. -/
def busyActions : List Action :=
  [.move (.record 1 (instant "dropped")), .move .clear, .move (.enter 3 ⟨.int 9, .int 0⟩),
    .move (.record 2 (instant "first")), .move (.pass 3 true),
    .move (.record 1 (instant "second"))]

/-- A look at these events hands out a list that keeps them. -/
theorem run_history_busy :
    ∃ after, (start.run busyActions).1.step (.move .look) = some (after, .seen 1) ∧
      ∀ later, (after.run later).1.lists[1]? = some [instant "first", instant "second"] := by
  obtain ⟨hcontent, -, hstep⟩ := run_history busyActions
  have hlook : (start.run busyActions).1.step (.move .look) =
      some ((start.run busyActions).1.copy, .seen 1) := rfl
  obtain ⟨-, -, hkept⟩ := (hstep _ _ _ hlook).1 1 rfl
  refine ⟨_, hlook, fun later => ?_⟩
  rw [hkept later, hcontent]
  rfl

end Memory

end NetTimeline
