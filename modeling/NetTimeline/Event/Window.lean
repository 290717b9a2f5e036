import NetTimeline.Calendar.Expression
import NetTimeline.Event.Basic

/-!
# Date windows

Reference model of `event_start_datetime` and `filter_events_by_date`. A window keeps the events
that start between two moments, both included; either may be missing. The moments are given as date
expressions. One that names a whole day, by `today`, `yesterday` or so many `days ago` in just these
letters, stands for the start of that day where the window begins and for its last microsecond where
the window ends. An empty expression is none.

The expressions are read by the library dateparser. A `DateReader` stands in its place, so that all
that is proved of `filterByReader` holds whatever dateparser reads; `filterByDate` is the filter
with the one reader of this project, `Calendar.readMoment`.

Main statement: `Window.select_sublist` — the events that a window keeps stand in their old order.
-/

set_option autoImplicit false

namespace NetTimeline

open Calendar (ExpressionError Moment MomentError readMoment)

/-- A number of milliseconds in seconds, rounded once. -/
def secondsOfMillis (millis : Finite64) : Binary64 :=
  .ofRatio millis.negative millis.magnitude.units 1000

/-- The moment at which an event starts (`event_start_datetime`). -/
def NetworkEvent.startMoment (event : NetworkEvent) : Except MomentError Moment :=
  Moment.ofSeconds (secondsOfMillis event.startTime)

/-- Why events cannot be kept by a window. -/
inductive WindowError where
  /-- The beginning is no date expression. -/
  | unreadableFrom (text : String)
  /-- The end is no date expression. -/
  | unreadableTo (text : String)
  /-- An end is not in the years 1 to 9999. -/
  | outOfRange
  /-- An event starts at no moment. -/
  | start (error : MomentError)
  deriving DecidableEq, Repr

def WindowError.message : WindowError → String
  | .unreadableFrom text => "Could not parse from-date: " ++ text
  | .unreadableTo text => "Could not parse to-date: " ++ text
  | .outOfRange => "date value out of range"
  | .start error => error.message

/-- What reads date expressions at some present, in the place of `dateparser.parse` with the settings
of the program, by which a moment is in universal time and bears no zone: a moment, or nothing
(`unreadable`), or, for one that its zone moves out of the years 1 to 9999, the failure of that move
(`outOfRange`). That these are all its outcomes is the one thing taken for granted. -/
abbrev DateReader := String → Except ExpressionError Moment

/-- The moments between which events are kept. -/
structure Window where
  first : Option Moment
  last : Option Moment
  deriving DecidableEq

namespace Window

/-- Whether an expression stands for a whole day. -/
def namesDay (text : String) : Bool :=
  text = "today" || text = "yesterday" || Text.hasPart "days ago".toList text.toList

/-- An end of a window: the moment that is read, moved by `snap` if the expression names a day. -/
def endOf (snap : Moment → Moment) (unreadable : String → WindowError) (read : DateReader)
    (text : String) : Except WindowError Moment :=
  match read text with
  | .ok moment => .ok (if namesDay text then snap moment else moment)
  | .error .unreadable => .error (unreadable text)
  | .error .outOfRange => .error .outOfRange

/-- The moment at which a window begins. -/
abbrev firstOf : DateReader → String → Except WindowError Moment :=
  endOf Moment.startOfDay .unreadableFrom

/-- The moment at which a window ends. -/
abbrev lastOf : DateReader → String → Except WindowError Moment :=
  endOf Moment.endOfDay .unreadableTo

/-- The moment of an expression, if there is one. -/
def readEnd (reader : String → Except WindowError Moment) :
    Option String → Except WindowError (Option Moment)
  | none => .ok none
  | some text => if text.isEmpty then .ok none else (reader text).map some

/-- The window between two expressions. -/
def ofReader (read : DateReader) (start stop : Option String) : Except WindowError Window := do
  let first ← readEnd (firstOf read) start
  let last ← readEnd (lastOf read) stop
  return ⟨first, last⟩

/-- Whether a moment lies in the window. -/
def contains (window : Window) (moment : Moment) : Bool :=
  window.first.all (fun first => decide (first.micros ≤ moment.micros)) &&
    window.last.all fun last => decide (moment.micros ≤ last.micros)

/-- Whether nothing ends the window. -/
def isOpen (window : Window) : Bool := window.first.isNone && window.last.isNone

variable {α : Type}

/-- The items whose events start at a moment in the window. -/
def keep (window : Window) (event : α → NetworkEvent) : List α → Except MomentError (List α)
  | [] => .ok []
  | item :: items => do
    let moment ← (event item).startMoment
    let kept ← keep window event items
    return if window.contains moment then item :: kept else kept

/-- The items whose events the window keeps. A window without ends asks for no moments. -/
def select (window : Window) (event : α → NetworkEvent) (items : List α) :
    Except MomentError (List α) :=
  if window.isOpen then .ok items else window.keep event items

theorem keep_sublist {window : Window} {event : α → NetworkEvent} {items kept : List α}
    (h : window.keep event items = .ok kept) : kept.Sublist items := by
  induction items generalizing kept with
  | nil =>
    injection h with h
    simp [← h]
  | cons item items ih =>
    unfold keep at h
    cases hmoment : (event item).startMoment with
    | error e => simp [hmoment, bind, Except.bind] at h
    | ok moment =>
      cases hrest : window.keep event items with
      | error e => simp [hmoment, hrest, bind, Except.bind] at h
      | ok rest =>
        simp only [hmoment, hrest, bind, Except.bind, pure, Except.pure, Except.ok.injEq] at h
        subst h
        split
        · exact (ih hrest).cons_cons item
        · exact (ih hrest).cons item

theorem select_sublist {window : Window} {event : α → NetworkEvent} {items kept : List α}
    (h : window.select event items = .ok kept) : kept.Sublist items := by
  unfold select at h
  split at h
  · injection h with h
    simp [← h]
  · exact keep_sublist h

end Window

/-- The items whose events start between two date expressions, whatever reads these
(`filter_events_by_date`). -/
def filterByReader {α : Type} (read : DateReader) (start stop : Option String)
    (event : α → NetworkEvent) (items : List α) : Except WindowError (List α) := do
  let window ← Window.ofReader read start stop
  (window.select event items).mapError WindowError.start

/-- The items whose events start between two date expressions as this project reads them. -/
def filterByDate {α : Type} (present : Moment) (start stop : Option String)
    (event : α → NetworkEvent) (items : List α) : Except WindowError (List α) :=
  filterByReader (readMoment present) start stop event items

end NetTimeline
