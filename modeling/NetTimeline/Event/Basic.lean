import NetTimeline.Event.Field
import NetTimeline.Text.Excerpt
import NetTimeline.Text.Part

/-!
# Network events

Reference model of the record `NetworkEvent` and of `parse_network_event`; the complaints are worded
as by the library pydantic. A network event is a completed request with a start and an end, both
finite and in order. `NetworkEvent.ofFields` makes an event of a JSON object; `EventError` says why
an object is none, and `EventError.report` words it for the log.

Main statements:

* `NetworkEvent.startTime_le_endTime` — an event does not end before it starts;
* `NetworkEvent.ofFields_eq_untimed_iff` — an object is refused unread exactly if it lacks one of
  its times;
* `NetworkEvent.lookup_of_ofFields_invalid` — each error is about a field that the object has.
-/

set_option autoImplicit false

namespace NetTimeline

open Json (Value lookup?)

/-- A completed request, timed in milliseconds since a common epoch. -/
structure NetworkEvent where
  startTime : Finite64
  endTime : Finite64
  id : Option String
  url : Option String
  method : String
  status : Option Int
  inOrder : startTime.units ≤ endTime.units
  deriving DecidableEq

/-- A field that does not hold what it should. -/
structure FieldError where
  field : String
  problem : FieldProblem
  given : Value

/-- Why an object is not a network event. -/
inductive EventError where
  /-- There is no start or no end. -/
  | untimed (fields : List (String × Value))
  /-- Some fields do not hold what they should. -/
  | invalid (errors : List FieldError)
  /-- The end is before the start. -/
  | disordered (startTime endTime : Finite64) (fields : List (String × Value))

namespace NetworkEvent

theorem startTime_le_endTime (event : NetworkEvent) : event.startTime.place ≤ event.endTime.place :=
  event.inOrder

/-- How long the request took. -/
def totalTime (event : NetworkEvent) : Binary64 := event.endTime.sub event.startTime

/-- A field with its reader, if it does not hold what it should. -/
def fieldError? {α : Type} (field : String) (reader : Value → Except FieldProblem α)
    (given : Value) : Option FieldError :=
  match reader given with
  | .ok _ => none
  | .error problem => some ⟨field, problem, given⟩

/-- An event from the values of its fields. -/
def ofValues (fields : List (String × Value)) (startTime endTime id url method status : Value) :
    Except EventError NetworkEvent :=
  match readTime startTime, readTime endTime, readOptionalText id, readOptionalText url,
      readText method, readStatus status with
  | .ok startTime, .ok endTime, .ok id, .ok url, .ok method, .ok status =>
    if inOrder : startTime.units ≤ endTime.units then
      .ok { startTime, endTime, id, url, method, status, inOrder }
    else .error (.disordered startTime endTime fields)
  | _, _, _, _, _, _ =>
    .error (.invalid ([fieldError? "startTime" readTime startTime,
      fieldError? "endTime" readTime endTime, fieldError? "id" readOptionalText id,
      fieldError? "url" readOptionalText url, fieldError? "method" readText method,
      fieldError? "status" readStatus status].filterMap fun error => error))

/-- An event from the fields of an object; fields of other names are ignored
(`parse_network_event`). -/
def ofFields (fields : List (String × Value)) : Except EventError NetworkEvent :=
  match lookup? "startTime" fields, lookup? "endTime" fields with
  | some startTime, some endTime =>
    ofValues fields startTime endTime ((lookup? "id" fields).getD .null)
      ((lookup? "url" fields).getD .null) ((lookup? "method" fields).getD (.string "GET"))
      ((lookup? "status" fields).getD .null)
  | _, _ => .error (.untimed fields)

theorem ofFields_eq_untimed_iff {fields : List (String × Value)} :
    (∃ shown, ofFields fields = .error (.untimed shown)) ↔
      lookup? "startTime" fields = none ∨ lookup? "endTime" fields = none := by
  unfold ofFields
  cases hstart : lookup? "startTime" fields with
  | none => simp
  | some startTime =>
    cases hend : lookup? "endTime" fields with
    | none => simp
    | some endTime =>
      simp only [reduceCtorEq, or_self, iff_false, not_exists]
      intro shown
      unfold ofValues
      split
      · split <;> simp
      · simp

theorem fieldError?_eq_some_iff {α : Type} {field : String} {reader : Value → Except FieldProblem α}
    {given : Value} {error : FieldError} :
    fieldError? field reader given = some error ↔
      error.field = field ∧ error.given = given ∧ reader given = .error error.problem := by
  obtain ⟨errorField, problem, errorGiven⟩ := error
  unfold fieldError?
  split
  · rename_i hread
    simp [hread]
  · rename_i hread
    simp only [Option.some.injEq, FieldError.mk.injEq, hread, Except.error.injEq]
    constructor
    · rintro ⟨rfl, rfl, rfl⟩
      exact ⟨rfl, rfl, rfl⟩
    · rintro ⟨rfl, rfl, rfl⟩
      exact ⟨rfl, rfl, rfl⟩

/-- A default passes the check of its own field, so only a value of the object can be at fault. -/
theorem lookup_of_fieldError? {α : Type} {fields : List (String × Value)} {field : String}
    {reader : Value → Except FieldProblem α} {default : Value} {error : FieldError}
    (hdefault : ∃ a, reader default = .ok a)
    (h : fieldError? field reader ((lookup? field fields).getD default) = some error) :
    lookup? error.field fields = some error.given := by
  obtain ⟨a, ha⟩ := hdefault
  obtain ⟨rfl, hgiven, hproblem⟩ := fieldError?_eq_some_iff.1 h
  cases hlookup : lookup? error.field fields with
  | none =>
    rw [hlookup, Option.getD_none, ha] at hproblem
    cases hproblem
  | some value =>
    rw [hgiven, hlookup, Option.getD_some]

/-- **Each error of an object is about a field that it has**, with the value at fault. -/
theorem lookup_of_ofFields_invalid {fields : List (String × Value)} {errors : List FieldError}
    (h : ofFields fields = .error (.invalid errors)) {error : FieldError} (he : error ∈ errors) :
    lookup? error.field fields = some error.given := by
  unfold ofFields at h
  split at h
  · rename_i startTime endTime hstart hend
    unfold ofValues at h
    split at h
    · split at h <;> cases h
    · cases h
      simp only [List.mem_filterMap, List.mem_cons, List.not_mem_nil, or_false] at he
      obtain ⟨found, hfound, rfl⟩ := he
      rcases hfound with h | h | h | h | h | h
      · obtain ⟨hfield, hgiven, _⟩ := fieldError?_eq_some_iff.1 h.symm
        rw [hfield, hgiven, hstart]
      · obtain ⟨hfield, hgiven, _⟩ := fieldError?_eq_some_iff.1 h.symm
        rw [hfield, hgiven, hend]
      · exact lookup_of_fieldError? ⟨none, rfl⟩ h.symm
      · exact lookup_of_fieldError? ⟨none, rfl⟩ h.symm
      · exact lookup_of_fieldError? ⟨"GET", rfl⟩ h.symm
      · exact lookup_of_fieldError? ⟨none, rfl⟩ h.symm
  · cases h

end NetworkEvent

/-! ## Wording -/

/-- One thing that is wrong with an object: the field, if it is one field, a text with its short
name, and the value at fault. -/
structure Complaint where
  field : Option String
  text : String
  code : String
  given : Value

/-- The complaint about a field. -/
def FieldError.complaint (error : FieldError) : Complaint :=
  ⟨some error.field, error.problem.message, error.problem.code, error.given⟩

/-- The lines of a complaint in the log, each with its line break. -/
def Complaint.lines (complaint : Complaint) : String :=
  (match complaint.field with
    | some field => field ++ "\n"
    | none => "") ++
  "  " ++ complaint.text ++ " [type=" ++ complaint.code ++ ", input_value=" ++
    Text.excerpt complaint.given.literal ++ ", input_type=" ++ complaint.given.kind ++ "]\n"

namespace EventError

/-- The message of an object without a start or an end. -/
def untimedText (fields : List (String × Value)) : String :=
  "Network event without timing information: " ++ (Value.object fields).literal

/-- What is wrong with an object that has both its times. -/
def complaints : EventError → List Complaint
  | .untimed _ => []
  | .invalid errors => errors.map FieldError.complaint
  | .disordered startTime endTime fields =>
    [⟨none, "Value error, endTime " ++ (Binary64.finite endTime).text ++ " precedes startTime " ++
      (Binary64.finite startTime).text, "value_error", .object fields⟩]

/-- The complaints about an object in the log, under a line with their number. -/
def complaintReport (complaints : List Complaint) : String :=
  toString complaints.length ++
    (if complaints.length = 1 then " validation error" else " validation errors") ++
    " for NetworkEvent\n" ++ String.join (complaints.map Complaint.lines)

end EventError

/-! ## References to documentation -/

/-- The beginning of a reference to the documentation of a complaint. -/
def referenceMark : List Char := "    For further information visit https://errors".toList

/-- Whether a reference stands at the front of the text. -/
def startsReference (cs : List Char) : Bool :=
  match Text.after? referenceMark cs with
  | some (c :: rest) => c ≠ '\n' && (Text.after? "pydantic".toList rest).isSome
  | _ => false

/-- The text without references, each from its beginning to the end of its line; `inside` tells
whether the text starts inside one. -/
def dropReferences (inside : Bool) : List Char → List Char
  | [] => []
  | c :: cs =>
    if inside then dropReferences (c ≠ '\n') cs
    else if startsReference (c :: cs) then dropReferences true cs
    else c :: dropReferences false cs

/-- Whether a text speaks of a validation error, in any letter case. -/
def mentionsValidation (cs : List Char) : Bool :=
  Text.hasPart "validation error".toList (lowerAscii cs)

/-- What the log says about an object that is no network event. -/
def EventError.report (error : EventError) : String :=
  match error with
  | .untimed fields =>
    let text := (EventError.untimedText fields).toList
    String.ofList (if mentionsValidation text then dropReferences false text else text)
  | _ => EventError.complaintReport error.complaints

end NetTimeline
