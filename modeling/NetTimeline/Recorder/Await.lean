import NetTimeline.Recorder.Threads

/-!
# One thread waits

The moves of a wait while another thread records events: the waiting thread looks at the events as
it starts and, if they are not enough, once more when the others have been recorded and its time is
over.
-/

set_option autoImplicit false

namespace NetTimeline

/-- The moves of a wait during which some events arrive. -/
def awaitMoves (request : WaitRequest) (arrivals : List NetworkEvent) : List Move :=
  [.enter 0 request, .pass 0 false] ++ arrivals.map (Move.record 1) ++ [.wake 0, .pass 0 true]

/-- What became of the wait in the end. -/
def lastStatus (responses : List (Move × Response)) : WaitStatus :=
  responses.foldl
    (fun status response => match response with
      | (_, .wait later) => later
      | _ => status)
    .waiting

namespace Recorder

/-- A wait during which some events arrive. -/
def await (recorder : Recorder) (request : WaitRequest) (arrivals : List NetworkEvent) :
    Recorder × WaitStatus :=
  let (after, responses) := recorder.run (awaitMoves request arrivals)
  (after, lastStatus responses)

end Recorder

end NetTimeline
