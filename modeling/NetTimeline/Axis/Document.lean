import NetTimeline.Axis.Basic
import NetTimeline.Json.Reader
import NetTimeline.Json.Writer

/-!
# The axis as a JSON document

Reference model of `model_dump_json` of an `AxisResult`. An axis is an object of its span, its step
and its divisions; a division is an object of its offset, its unit and its label. `Axis.ofValue?`
reads the object back.

Main statement: `Axis.ofValue?_toValue`.
-/

set_option autoImplicit false

namespace NetTimeline

open Json (Value)

namespace Division

def toValue (division : Division) : Value :=
  .object [("offset_ms", .float (.finite division.offset)),
    ("unit", .string division.unit.name), ("label", .string division.label)]

def ofValue? : Value → Option Division
  | .object [("offset_ms", .float (.finite offset)), ("unit", .string unit),
      ("label", .string label)] =>
    (Scale.ofName? unit).map fun scale => ⟨offset, scale, label⟩
  | _ => none

theorem ofValue?_toValue (division : Division) : ofValue? division.toValue = some division := by
  simp [toValue, ofValue?, Scale.ofName?_name]

end Division

namespace Axis

def toValue (axis : Axis) : Value :=
  .object [("duration_ms", .float (.finite axis.span)), ("step_ms", .float (.finite axis.step)),
    ("divisions", .array (axis.divisions.map Division.toValue))]

def ofValue? : Value → Option Axis
  | .object [("duration_ms", .float (.finite span)), ("step_ms", .float (.finite step)),
      ("divisions", .array divisions)] =>
    (divisions.mapM Division.ofValue?).map fun divisions => ⟨span, step, divisions⟩
  | _ => none

theorem ofValue?_toValue (axis : Axis) : ofValue? axis.toValue = some axis := by
  have hdivisions : (axis.divisions.map Division.toValue).mapM Division.ofValue? =
      some axis.divisions := by
    induction axis.divisions with
    | nil => rfl
    | cons division divisions ih => simp [Division.ofValue?_toValue, ih]
  simp [toValue, ofValue?, hdivisions]

/-- The axis as a document, on one line or indented (`model_dump_json`). -/
def toJson (axis : Axis) (indent : Option Nat) : String := Json.document indent axis.toValue

end Axis

end NetTimeline
