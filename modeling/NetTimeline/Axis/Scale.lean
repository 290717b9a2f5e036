import NetTimeline.Number.Basic

/-!
# Time scales and labels

Reference model of `scale_for` and `format_division_label`. An offset on the axis is labelled in
milliseconds, seconds or minutes.

Main statements: `Scale.ofName?_name` — a scale is read back from its name; `Scale.forTime_int` —
the scale of a whole number of milliseconds, by the two boundaries `1000` and `60000`.
-/

set_option autoImplicit false

namespace NetTimeline

/-- The unit of a label. -/
inductive Scale where
  | millisecond
  | second
  | minute
  deriving DecidableEq, Repr

namespace Scale

/-- All scales, the finest first. -/
def all : List Scale := [.millisecond, .second, .minute]

def name : Scale → String
  | .millisecond => "millisecond"
  | .second => "second"
  | .minute => "minute"

/-- The scale with a given name. -/
def ofName? (s : String) : Option Scale := all.find? fun scale => scale.name == s

theorem ofName?_name (scale : Scale) : ofName? scale.name = some scale := by
  cases scale <;> decide

/-- What stands behind the number in a label (`UNIT_MARKERS`). -/
def marker : Scale → String
  | .millisecond => "ms"
  | .second => "s"
  | .minute => "min"

/-- The milliseconds in one unit of the scale. -/
def milliseconds : Scale → Nat
  | .millisecond => 1
  | .second => 1000
  | .minute => 60000

/-- The scale in which a time of `t` milliseconds is labelled (`scale_for`). -/
def forTime (t : Number) : Scale :=
  if t.lt (.int 1000) then .millisecond
  else if t.lt (.int 60000) then .second
  else .minute

theorem forTime_int (t : Int) :
    forTime (.int t) =
      if t < 1000 then .millisecond else if t < 60000 then .second else .minute := by
  simp [forTime, Number.lt_int_int]

/-- An offset in the scale: milliseconds are rounded half to even, the other scales have two
places. -/
def label (scale : Scale) (offset : Number) : Except NumberError String :=
  match scale with
  | .millisecond => do
    let whole ← offset.nearest
    let numeral ← Number.text (.int whole)
    return numeral ++ " " ++ scale.marker
  | _ => do
    let quotient ← offset.div scale.milliseconds
    return quotient.twoPlaces ++ " " ++ scale.marker

end Scale

end NetTimeline
