import NetTimeline.Number.Basic

/-!
# Nice steps

Reference model of `snap_to_nice_step` and `_largest_step_within`. The interval between two ticks is
a *nice* number of milliseconds: one of a table from `1` to half an hour, or a multiple of half an
hour. `Step.atLeast` looks for the least nice step that is not below a time, `Step.within` for the
greatest that is not above it; past the table both divide by half an hour, round the quotient once
and go to the next whole number.

Main statement: `Step.Nice.pos` — a nice step is positive.
-/

set_option autoImplicit false

namespace NetTimeline.Step

/-- Half an hour in milliseconds, the last step of the table. -/
def halfHour : Nat := 1800000

/-- The nice steps up to half an hour. Those below a second divide a second, those below a minute
divide a minute. -/
def table : List Nat :=
  [1, 2, 5, 10, 20, 50, 100, 200, 500,
    1000, 2000, 5000, 10000, 15000, 30000,
    60000, 120000, 300000, 600000, 900000, halfHour]

/-- A step of the table, or a positive multiple of half an hour. -/
def Nice (step : Nat) : Prop := step ∈ table ∨ (0 < step ∧ halfHour ∣ step)

theorem table_pos {step : Nat} (h : step ∈ table) : 0 < step := by
  have : ∀ s ∈ table, 0 < s := by decide
  exact this step h

theorem Nice.pos {step : Nat} (h : Nice step) : 0 < step :=
  h.elim table_pos And.left

/-- The least nice step that is not below a time (`snap_to_nice_step`). -/
def atLeast (time : Number) : Except NumberError Nat :=
  match table.find? fun step : Nat => time.le (.int step) with
  | some step => .ok step
  | none => do
    let quotient ← time.div halfHour
    let count ← quotient.ceil
    return halfHour * count.toNat

/-- The greatest nice step that is not above a time, or else the least one of all
(`_largest_step_within`). -/
def within (time : Number) : Except NumberError Nat :=
  if Number.le (.int halfHour) time then do
    let quotient ← time.div halfHour
    let count ← quotient.floor
    return halfHour * count.toNat
  else .ok (((table.filter fun step : Nat => Number.le (.int step) time).getLast?).getD 1)

end NetTimeline.Step
