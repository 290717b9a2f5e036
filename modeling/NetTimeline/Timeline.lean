import NetTimeline.Axis.Basic
import NetTimeline.Event.Span
import NetTimeline.Event.Window
import NetTimeline.Log.Load

/-!
# The timeline of recorded requests

Reference model of `build_axis_for_events` and `build_axis`. The axis of a request log, or of a
directory of them, spans the requests that a date window keeps. What reads the dates is left open in
`axisByReader`; `axisOfPath` is the axis with the readings of this project.

Main statement: `axisOfEvents_result` — the axis of events depends on their span alone. What a path
that leads nowhere, a log or the dates make of a run is in `NetTimeline.Proofs.Command`.
-/

set_option autoImplicit false

namespace NetTimeline

open Calendar (Moment readMoment)
open Files (FileError FileSystem Path)

/-- Why recorded requests have no axis. -/
inductive TimelineError where
  /-- The path leads nowhere. -/
  | missing (path : String)
  | load (error : LoadError)
  | window (error : WindowError)
  | axis (error : AxisError)
  deriving DecidableEq

def TimelineError.message : TimelineError → String
  | .missing path => "Input path not found: " ++ path
  | .load error => error.message
  | .window error => error.message
  | .axis error => error.message

/-- The axis of the span of some events (`build_axis_for_events`). -/
def axisOfEvents (events : List NetworkEvent) (request : TickRequest) : Logged AxisError Axis := do
  let span := eventSpan events
  .log .debug (toString events.length ++ " visible events spanning " ++ span.text ++ " ms")
  .ofExcept (Axis.divide (.float span) request)

theorem axisOfEvents_result (events : List NetworkEvent) (request : TickRequest) :
    (axisOfEvents events request).result = Axis.divide (.float (eventSpan events)) request := rfl

/-- What is to be shown of which requests. -/
structure TimelineQuery where
  path : Path
  ticks : TickRequest
  start : Option String
  stop : Option String

/-- The events that a path leads to. -/
def loadPath (files : FileSystem) (path : Path) : Logged LoadError (List NetworkEvent) :=
  if files.isFile path.text then loadLog files path else loadDirectory files path

/-- The axis of the requests at a path, whatever reads the dates (`build_axis`). -/
def axisByReader (files : FileSystem) (read : DateReader) (query : TimelineQuery) :
    Logged TimelineError Axis := do
  let there ← .ofExcept <| (files.exists? query.path.text).mapError (.load ∘ .file)
  if !there then throw (.missing query.path.text)
  let events ← (loadPath files query.path).mapError TimelineError.load
  let visible ← .ofExcept <|
    (filterByReader read query.start query.stop id events).mapError TimelineError.window
  if visible.isEmpty && !events.isEmpty then
    .log .warning "No network events left after date filtering"
  (axisOfEvents visible query.ticks).mapError TimelineError.axis

/-- The axis of the requests at a path, with the dates as this project reads them. -/
def axisOfPath (files : FileSystem) (present : Moment) (query : TimelineQuery) :
    Logged TimelineError Axis :=
  axisByReader files (readMoment present) query

end NetTimeline
