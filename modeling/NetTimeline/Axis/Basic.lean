import NetTimeline.Axis.Scale
import NetTimeline.Axis.Step
import NetTimeline.Text.Quoted

/-!
# The timeline axis

Reference model of `divide` and of the records `Division` and `AxisResult`. `Ruler.forSpan` chooses
the step of an axis and its offsets, in whole milliseconds; `Axis.divide` labels them. The step is
the least nice one that is not below the span divided by the wanted number of intervals, or the
greatest one within the span if that overshoots. Ticks stand at all multiples of the step that the
span reaches; an axis that steps in minutes has one more division at 30 s.

Main statements: `Ruler.mem_ticks` — the ticks are the multiples of the step up to the span;
`Axis.divisionsIn_sublist` — the divisions of a scale are some of the axis, in its order.
-/

set_option autoImplicit false

namespace NetTimeline

/-- What a caller hands in as the wanted number of intervals. -/
inductive TickRequest where
  | number (n : Number)
  | flag (b : Bool)
  | text (s : String)
  | absent
  deriving DecidableEq

/-- The number of intervals that are asked for by default (`DEFAULT_TICK_COUNT`). -/
def defaultTickCount : Nat := 5

/-- The most intervals that can be asked for on the command line (`MAX_TICK_COUNT`). -/
def maxTickCount : Nat := 20

/-- Why a span has no axis. -/
inductive AxisError where
  /-- The wanted number of intervals is not a whole number. -/
  | ticksNotWhole (given : String)
  /-- The wanted number of intervals is below one. -/
  | ticksBelowOne (given : String)
  /-- The span is negative, infinite or a NaN. -/
  | spanNotUsable (given : String)
  /-- A number on the way has no value. -/
  | number (e : NumberError)
  /-- A field of the axis is beyond the finite binary64 values. -/
  | fieldTooLarge (field : String)
  deriving DecidableEq, Repr

def AxisError.message : AxisError → String
  | .ticksNotWhole given => "target_tick_count must be an integer, got " ++ given
  | .ticksBelowOne given => "target_tick_count must be at least 1, got " ++ given
  | .spanNotUsable given => "duration_ms must be a non-negative number, got " ++ given
  | .number e => e.message
  | .fieldTooLarge field => field ++ ": Input should be a valid number [float_type]"

/-- A number's error as an axis error. -/
def AxisError.ofNumber {α : Type} : Except NumberError α → Except AxisError α
  | .ok a => .ok a
  | .error e => .error (.number e)

/-! ## The step and the offsets -/

/-- The step of an axis and the offsets of its divisions, in milliseconds. -/
structure Ruler where
  step : Nat
  offsets : List Nat
  deriving DecidableEq, Repr

namespace Ruler

/-- The offset of the division that stands ahead of the first tick of an axis in minutes
(`LEAD_IN_MS`). -/
def leadIn : Nat := 30000

/-- The multiples of `step` from zero to `reach`: what the loop of `divide` collects. -/
def ticks (step reach : Nat) : List Nat :=
  (List.range (reach / step + 1)).map (· * step)

/-- The offsets with the lead-in behind the first one. -/
def insertLeadIn : List Nat → List Nat
  | [] => [leadIn]
  | first :: rest => first :: leadIn :: rest

/-- The ruler with a step for a span that reaches `reach` whole milliseconds. -/
def ofStep (step reach : Nat) : Ruler :=
  if 60000 ≤ step then ⟨step, insertLeadIn (ticks step reach)⟩ else ⟨step, ticks step reach⟩

theorem mem_ticks {step reach offset : Nat} (hstep : 0 < step) :
    offset ∈ ticks step reach ↔ (∃ k, offset = k * step) ∧ offset ≤ reach := by
  simp only [ticks, List.mem_map, List.mem_range]
  constructor
  · rintro ⟨k, hk, rfl⟩
    refine ⟨⟨k, rfl⟩, ?_⟩
    exact (Nat.le_div_iff_mul_le hstep).1 (by omega)
  · rintro ⟨⟨k, rfl⟩, hle⟩
    have := (Nat.le_div_iff_mul_le hstep).2 hle
    exact ⟨k, by omega, rfl⟩

/-- The wanted number of intervals, if it is a whole number of at least one. -/
def wantedTicks : TickRequest → Except AxisError Nat
  | .number (.int n) =>
    if n < 1 then do
      let given ← AxisError.ofNumber (Number.text (.int n))
      .error (.ticksBelowOne given)
    else .ok n.toNat
  | .number (.float x) => .error (.ticksNotWhole x.text)
  | .flag b => .error (.ticksNotWhole (if b then "True" else "False"))
  | .text s => .error (.ticksNotWhole (Text.quoted s))
  | .absent => .error (.ticksNotWhole "None")

/-- A span that is finite and not negative, as a binary64 value. -/
def usableSpan (span : Number) : Except AxisError Finite64 := do
  let nearest ← AxisError.ofNumber span.toBinary64
  match nearest, span.lt (.int 0) with
  | .finite x, false => .ok x
  | _, _ => do
    let given ← AxisError.ofNumber span.text
    .error (.spanNotUsable given)

/-- The step for a span and a number of intervals: the snapped one, or the largest within the span
if that overshoots (the choice of `divide`). -/
def chooseStep (span : Number) (ticks : Nat) : Except NumberError Nat := do
  let interval ← span.div ticks
  let step ← Step.atLeast (.float interval)
  if span.lt (.int step) && Number.lt (.int 0) span then Step.within span else return step

/-- The ruler for a usable span and a positive number of intervals. -/
def forSpan (span : Number) (ticks : Nat) : Except NumberError Ruler := do
  let step ← chooseStep span ticks
  let reach ← span.floor
  return ofStep step reach.toNat

end Ruler

/-! ## The labelled axis -/

/-- One labelled tick mark (`Division`). -/
structure Division where
  offset : Finite64
  unit : Scale
  label : String
  deriving DecidableEq

/-- The divisions of a span, ordered by offset (`AxisResult`). -/
structure Axis where
  span : Finite64
  step : Finite64
  divisions : List Division
  deriving DecidableEq

/-- A whole number as a field of an axis. -/
def AxisError.field (name : String) (n : Nat) : Except AxisError Finite64 :=
  (Binary64.ofInt n).finite?.elim (.error (.fieldTooLarge name)) .ok

namespace Division

/-- The division at an offset, labelled in the scale of the offset itself. -/
def ofOffset (offset : Nat) : Except AxisError Division := do
  let unit := Scale.forTime (.int offset)
  let label ← AxisError.ofNumber (unit.label (.int offset))
  let place ← AxisError.field "offset_ms" offset
  return ⟨place, unit, label⟩

end Division

namespace Axis

/-- The labelled axis of a ruler. -/
def ofRuler (span : Finite64) (ruler : Ruler) : Except AxisError Axis := do
  let divisions ← ruler.offsets.mapM Division.ofOffset
  let step ← AxisError.field "step_ms" ruler.step
  return ⟨span, step, divisions⟩

/-- The axis of a span of milliseconds with about the wanted number of intervals (`divide`). -/
def divide (span : Number) (request : TickRequest) : Except AxisError Axis := do
  let ticks ← Ruler.wantedTicks request
  let extent ← Ruler.usableSpan span
  let ruler ← AxisError.ofNumber (Ruler.forSpan span ticks)
  ofRuler extent ruler

/-- The divisions that are labelled in a scale (`divisions_by_unit`). -/
def divisionsIn (axis : Axis) (scale : Scale) : List Division :=
  axis.divisions.filter fun division => decide (division.unit = scale)

/-- The labels of all divisions. -/
def labels (axis : Axis) : List String := axis.divisions.map Division.label

theorem divisionsIn_sublist (axis : Axis) (scale : Scale) :
    (axis.divisionsIn scale).Sublist axis.divisions :=
  List.filter_sublist

end Axis

end NetTimeline
