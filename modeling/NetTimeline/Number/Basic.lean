import NetTimeline.Number.Layout

/-!
# Numbers: whole or binary64

A duration or an offset is handed in either as a whole number of any size or as a binary64 value.
Numbers are compared exactly, by their places on the number line; a quotient is rounded once.

Main statements: `lt_int_int` — whole numbers compare as integers; `lt_of_int_le` — and what one of
them is less than, a lesser one is less than too; `not_le_nan` — a NaN compares with nothing.
-/

set_option autoImplicit false

namespace NetTimeline

/-- A whole number or a binary64 value. -/
inductive Number where
  | int (n : Int)
  | float (x : Binary64)
  deriving DecidableEq

/-- Why a number has no value of the kind asked for. -/
inductive NumberError where
  /-- A whole number is beyond the finite binary64 values. -/
  | wholeTooLarge
  /-- The quotient of two whole numbers is beyond the finite binary64 values. -/
  | quotientTooLarge
  /-- An infinite value has no whole number next to it. -/
  | infiniteToWhole
  /-- A NaN has no whole number next to it. -/
  | nanToWhole
  /-- A whole number has more digits than are written. -/
  | tooManyDigits
  deriving DecidableEq, Repr

def NumberError.message : NumberError → String
  | .wholeTooLarge => "int too large to convert to float"
  | .quotientTooLarge => "integer division result too large for a float"
  | .infiniteToWhole => "cannot convert float infinity to integer"
  | .nanToWhole => "cannot convert float NaN to integer"
  | .tooManyDigits =>
    "Exceeds the limit (4300 digits) for integer string conversion; use " ++
      "sys.set_int_max_str_digits() to increase the limit"

/-- The decimal numeral of a whole number. -/
def intNumeral (n : Int) : String :=
  let digits := Nat.toDigits 10 n.natAbs
  String.ofList (if n < 0 then '-' :: digits else digits)

namespace Binary64

/-- A finite value in units, with its sign. -/
def toUnits : Binary64 → Except NumberError Int
  | .nan => .error .nanToWhole
  | .infinite _ => .error .infiniteToWhole
  | .finite x => .ok x.units

/-- The greatest whole number that is not above the value. -/
def floor (x : Binary64) : Except NumberError Int :=
  x.toUnits.map fun units => units / (unitsPerOne : Int)

/-- The least whole number that is not below the value. -/
def ceil (x : Binary64) : Except NumberError Int :=
  x.toUnits.map fun units => -(-units / (unitsPerOne : Int))

/-- The nearest whole number; of two equally near, the even one. -/
def nearest (x : Binary64) : Except NumberError Int :=
  x.toUnits.map fun units =>
    let size : Int := roundHalfEven units.natAbs unitsPerOne
    if units < 0 then -size else size

end Binary64

namespace Number

/-- Where a number lies on the extended number line; a NaN lies nowhere. -/
def place? : Number → Option Place
  | .int n => some (.units (n * unitsPerOne))
  | .float x => x.place?

/-- Exact comparison; false if either number is a NaN. -/
def le (a b : Number) : Bool :=
  match a.place?, b.place? with
  | some p, some q => decide (p ≤ q)
  | _, _ => false

/-- Exact strict comparison; false if either number is a NaN. -/
def lt (a b : Number) : Bool :=
  match a.place?, b.place? with
  | some p, some q => decide (p < q)
  | _, _ => false

theorem lt_int_int (a b : Int) : Number.lt (.int a) (.int b) = decide (a < b) := by
  have hpos : (0 : Int) < unitsPerOne := by exact_mod_cast unitsPerOne_pos
  simp [lt, place?, Int.mul_lt_mul_right hpos]

/-- What a whole number is less than, a lesser one is less than too. -/
theorem lt_of_int_le {a b : Int} {c : Number} (hab : a ≤ b) (hbc : Number.lt (.int b) c = true) :
    Number.lt (.int a) c = true := by
  have hplace (n : Int) : (Number.int n).place? = some (.units (n * unitsPerOne)) := rfl
  unfold lt at *
  rw [hplace] at *
  cases hc : c.place? with
  | none => simp [hc] at hbc
  | some q =>
    simp only [hc, decide_eq_true_eq] at hbc ⊢
    have hunits : Place.units (a * unitsPerOne) ≤ Place.units (b * unitsPerOne) :=
      Place.units_le_units.2 (Int.mul_le_mul_of_nonneg_right hab (by exact_mod_cast Nat.zero_le _))
    exact fun h => hbc (Place.le_trans h hunits)

theorem not_le_nan (a : Number) : a.le (.float .nan) = false := by
  unfold le
  cases a.place? <;> rfl

/-- The nearest binary64 value of a number. -/
def toBinary64 : Number → Except NumberError Binary64
  | .float x => .ok x
  | .int n => (Binary64.ofInt n).finite?.elim (.error .wholeTooLarge) fun x => .ok (.finite x)

/-- The quotient by a positive whole number. Two whole numbers are divided exactly and rounded
once; otherwise the divisor is rounded first. -/
def div (a : Number) (divisor : Nat) : Except NumberError Binary64 :=
  match a with
  | .int n =>
    (Binary64.ofQuotient n divisor).finite?.elim (.error .quotientTooLarge) fun x =>
      .ok (.finite x)
  | .float x => (Magnitude.ofNat? divisor).elim (.error .wholeTooLarge) fun d => .ok (x.div d)

/-- The greatest whole number that is not above the number. -/
def floor : Number → Except NumberError Int
  | .int n => .ok n
  | .float x => x.floor

/-- The nearest whole number; of two equally near, the even one. -/
def nearest : Number → Except NumberError Int
  | .int n => .ok n
  | .float x => x.nearest

/-- The number in a message. -/
def text : Number → Except NumberError String
  | .int n =>
    if decimalLength n.natAbs ≤ maxIntDigits then .ok (intNumeral n) else .error .tooManyDigits
  | .float x => .ok x.text

end Number

end NetTimeline
