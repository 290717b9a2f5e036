import NetTimeline.Event.Basic
import NetTimeline.Json.Reader
import NetTimeline.Log.Record
import NetTimeline.Text.Space

/-!
# A line of a request log

Reference model of what `load_network_events` does with one line. A line holds one event as a JSON
object, or nothing. `LineReading.ofChars` reads it, and
`LineProblem.warning` words what is wrong with one that holds anything else.

Main statements: `LineReading.ofChars_blank` — a line of blanks holds nothing;
`LineReading.ofChars_eq_event_iff` — a line holds an event exactly if it is an object that makes
one.
-/

set_option autoImplicit false

namespace NetTimeline

open Json (Value)

/-- Why a line holds no event. -/
inductive LineProblem where
  /-- The line is no JSON. -/
  | unreadable (error : Json.ReadError)
  /-- The line is JSON, but no object. -/
  | notObject (line : List Char)
  /-- The object is no event. -/
  | noEvent (error : EventError)

/-- What a line holds. -/
inductive LineReading where
  | blank
  | event (event : NetworkEvent)
  | rejected (problem : LineProblem)

namespace LineReading

/-- The event in a line without blanks at its ends. -/
def readEvent (line : List Char) : Except LineProblem NetworkEvent :=
  match Json.read line with
  | .error error => .error (.unreadable error)
  | .ok (.object fields) => (NetworkEvent.ofFields fields).mapError LineProblem.noEvent
  | .ok _ => .error (.notObject line)

/-- What a line holds; blanks at its ends do not count. -/
def ofChars (line : List Char) : LineReading :=
  match Text.trim Text.isBlank line with
  | [] => .blank
  | stripped =>
    match readEvent stripped with
    | .ok found => .event found
    | .error problem => .rejected problem

theorem ofChars_blank {line : List Char} (h : ∀ c ∈ line, Text.isBlank c = true) :
    ofChars line = .blank := by
  simp [ofChars, Text.trim_eq_nil_iff.2 h]

theorem ofChars_eq_event_iff {line : List Char} {e : NetworkEvent} :
    ofChars line = .event e ↔
      ∃ fields, Json.read (Text.trim Text.isBlank line) = .ok (.object fields) ∧
        Text.trim Text.isBlank line ≠ [] ∧ NetworkEvent.ofFields fields = .ok e := by
  unfold ofChars
  split
  · rename_i hnil
    simp [hnil]
  · rename_i hne
    unfold readEvent
    cases hread : Json.read (Text.trim Text.isBlank line) with
    | error error => simp
    | ok value =>
      cases value <;> simp
      rename_i fields
      cases hevent : NetworkEvent.ofFields fields with
      | error error => simp [mapError_error]
      | ok event =>
        simp only [mapError_ok, LineReading.event.injEq, Except.ok.injEq]
        exact ⟨fun h => ⟨hne, h⟩, fun h => h.2⟩

/-- The event in a line, if it holds one. -/
def event? : LineReading → Option NetworkEvent
  | .event e => some e
  | _ => none

end LineReading

/-- What the log says about a line that holds no event. -/
def LineProblem.warning (problem : LineProblem) (number : Nat) (path : String) : String :=
  let place := "Line " ++ toString number ++ " of " ++ path
  match problem with
  | .unreadable (.malformed problem line column position) =>
    place ++ " | JSON decode error: " ++
      (Json.ReadError.malformed problem line column position).message
  | .unreadable error => place ++ " | " ++ error.message
  | .notObject line => place ++ " is not a JSON object: " ++ String.ofList line
  | .noEvent error => place ++ " | " ++ error.report

namespace LineReading

/-- The record of a line, if it is rejected. -/
def record? (number : Nat) (path : String) : LineReading → Option LogRecord
  | .rejected problem => some ⟨.warning, problem.warning number path⟩
  | _ => none

end LineReading

end NetTimeline
