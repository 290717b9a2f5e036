import NetTimeline.Axis.Basic

/-!
# The axis as a table

Reference model of `_print_axis`. A line of the table holds the offset, right-aligned in twelve
columns, the unit, left-aligned in eleven, and the label. A header tells the span, the step and the
number of lines.
-/

set_option autoImplicit false

namespace NetTimeline

/-- A text with blanks in front of it, up to a width. -/
def alignRight (width : Nat) (s : String) : String :=
  "".pushn ' ' (width - s.length) ++ s

/-- A text with blanks behind it, up to a width. -/
def alignLeft (width : Nat) (s : String) : String :=
  s.pushn ' ' (width - s.length)

/-- A line of the table. -/
def Division.tableLine (division : Division) : String :=
  alignRight 12 (Binary64.finite division.offset).tableText ++ "  " ++
    alignLeft 11 division.unit.name ++ "  " ++ division.label

namespace Axis

/-- The divisions to show: those of one scale, or all. -/
def shown (axis : Axis) : Option Scale → List Division
  | some scale => axis.divisionsIn scale
  | none => axis.divisions

/-- The line above the divisions. -/
def tableHeader (axis : Axis) (count : Nat) : String :=
  "Duration: " ++ (Binary64.finite axis.span).tableText ++ " ms, step: " ++
    (Binary64.finite axis.step).tableText ++ " ms, " ++ toString count ++ " divisions"

/-- The lines of the table (`_print_axis`). -/
def table (axis : Axis) (scale : Option Scale) : List String :=
  let divisions := axis.shown scale
  axis.tableHeader divisions.length :: divisions.map Division.tableLine

end Axis

end NetTimeline
