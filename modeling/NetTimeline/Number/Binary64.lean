import NetTimeline.Number.Rounding

/-!
# Binary64 values, kept exactly

A finite value is a sign and a whole number of *units*, a unit being the least positive value
`2 ^ -1074`; so sums, differences and comparisons are arithmetic on integers, and every rounding
is one call of `roundToGrid`.

Main definitions: `Binary64`, `Binary64.ofRatio` (the nearest value of an exact quotient),
`Finite64.sub`, `Binary64.div`, and `Place`, the extended number line on which values and whole
numbers are compared without rounding.

Main statements: `Binary64.ofRatio_mul` — a representable magnitude is its own rounding;
`Place.le_total`, `Place.le_trans` — places are linearly ordered.
-/

set_option autoImplicit false

namespace NetTimeline

/-- The binary places of a unit. -/
def unitPlaces : Nat := 1074

/-- The number of units in one, `2 ^ unitPlaces`. -/
def unitsPerOne : Nat := Nat.pow (Nat.pow 2 179) 6

/-- The first number of units that lies beyond every finite value: those of `2 ^ 1024`. -/
def unitsLimit : Nat := Nat.pow (Nat.pow 2 128) 8 * unitsPerOne

theorem pow_pow_eq {b m n k : Nat} (h : k = m * n) : Nat.pow (Nat.pow b n) m = Nat.pow b k := by
  subst h
  exact (Nat.pow_mul' b m n).symm

theorem unitsPerOne_eq : unitsPerOne = Nat.pow 2 unitPlaces := pow_pow_eq rfl

theorem unitsLimit_eq : unitsLimit = Nat.pow 2 (8 * 128) * Nat.pow 2 unitPlaces := by
  unfold unitsLimit
  simp only [unitsPerOne_eq, pow_pow_eq (rfl : 8 * 128 = 8 * 128)]

theorem unitsPerOne_pos : 0 < unitsPerOne := by decide

theorem unitsLimit_pos : 0 < unitsLimit := by decide

/-- The size of a finite value, in units. -/
structure Magnitude where
  units : Nat
  onGrid : OnGrid units
  bounded : units < unitsLimit
  deriving DecidableEq

namespace Magnitude

def zero : Magnitude := ⟨0, onGrid_zero, unitsLimit_pos⟩

/-- The magnitude nearest to `num / den` units, unless that is beyond the finite values. -/
def ofRatio? (num den : Nat) : Option Magnitude :=
  if h : roundToGrid num den < unitsLimit then
    some ⟨roundToGrid num den, onGrid_roundToGrid num den, h⟩
  else none

/-- The magnitude nearest to a whole number. -/
def ofNat? (n : Nat) : Option Magnitude := ofRatio? (n * unitsPerOne) 1

/-- A magnitude is its own rounding, whatever fraction it is written as. -/
theorem ofRatio?_mul (m : Magnitude) {den : Nat} (h : 0 < den) :
    ofRatio? (m.units * den) den = some m := by
  have hround := roundToGrid_mul m.onGrid h
  simp [ofRatio?, hround, m.bounded]

end Magnitude

/-- A finite value: both zeros, `0.0` and `-0.0`, are values of their own. -/
structure Finite64 where
  negative : Bool
  magnitude : Magnitude
  deriving DecidableEq

/-- A binary64 value; the payloads of the NaNs are not told apart. -/
inductive Binary64 where
  | nan
  | infinite (negative : Bool)
  | finite (x : Finite64)
  deriving DecidableEq

/-! ## Places on the number line -/

/-- A place on the extended number line, in units. -/
inductive Place where
  | negativeInfinity
  | units (n : Int)
  | positiveInfinity
  deriving DecidableEq

namespace Place

protected def le : Place → Place → Prop
  | .negativeInfinity, _ => True
  | _, .positiveInfinity => True
  | .units a, .units b => a ≤ b
  | _, _ => False

instance : LE Place := ⟨Place.le⟩

instance : LT Place := ⟨fun a b => ¬ b ≤ a⟩

instance decidableLe : (a b : Place) → Decidable (a ≤ b)
  | .negativeInfinity, .negativeInfinity => .isTrue trivial
  | .negativeInfinity, .units _ => .isTrue trivial
  | .negativeInfinity, .positiveInfinity => .isTrue trivial
  | .units _, .negativeInfinity => .isFalse id
  | .units a, .units b => inferInstanceAs (Decidable (a ≤ b))
  | .units _, .positiveInfinity => .isTrue trivial
  | .positiveInfinity, .negativeInfinity => .isFalse id
  | .positiveInfinity, .units _ => .isFalse id
  | .positiveInfinity, .positiveInfinity => .isTrue trivial

instance decidableLt (a b : Place) : Decidable (a < b) :=
  inferInstanceAs (Decidable (¬ b ≤ a))

@[simp] theorem units_le_units {a b : Int} : Place.units a ≤ Place.units b ↔ a ≤ b := Iff.rfl

@[simp] theorem not_le {a b : Place} : ¬ a ≤ b ↔ b < a := Iff.rfl

@[simp] theorem units_lt_units {a b : Int} : Place.units a < Place.units b ↔ a < b := by
  rw [← not_le, units_le_units, Int.not_le]

theorem le_refl (a : Place) : a ≤ a := by
  cases a with
  | negativeInfinity => trivial
  | units n => exact Int.le_refl n
  | positiveInfinity => trivial

theorem le_total (a b : Place) : a ≤ b ∨ b ≤ a := by
  cases a <;> cases b <;> first
    | exact Or.inl trivial
    | exact Or.inr trivial
    | exact Int.le_total _ _

theorem le_trans {a b c : Place} (hab : a ≤ b) (hbc : b ≤ c) : a ≤ c := by
  cases a <;> cases b <;> cases c <;> first
    | trivial
    | exact hab.elim
    | exact hbc.elim
    | exact Int.le_trans hab hbc

end Place

/-! ## Finite values -/

namespace Finite64

def zero : Finite64 := ⟨false, .zero⟩

/-- The value in units, with its sign. -/
def units (x : Finite64) : Int :=
  if x.negative then -(x.magnitude.units : Int) else x.magnitude.units

/-- Where the value lies; the two zeros lie at the same place. -/
def place (x : Finite64) : Place := .units x.units

end Finite64

/-! ## All values -/

namespace Binary64

def zero : Binary64 := .finite .zero

/-- The value of the given sign nearest to `num / den` units; infinite beyond the finite ones. -/
def ofRatio (negative : Bool) (num den : Nat) : Binary64 :=
  match Magnitude.ofRatio? num den with
  | some m => .finite ⟨negative, m⟩
  | none => .infinite negative

theorem ofRatio_mul (negative : Bool) (m : Magnitude) {den : Nat} (h : 0 < den) :
    ofRatio negative (m.units * den) den = .finite ⟨negative, m⟩ := by
  unfold ofRatio
  rw [Magnitude.ofRatio?_mul m h]

/-- The quotient `a / b` of whole numbers, rounded once. -/
def ofQuotient (a : Int) (b : Nat) : Binary64 :=
  ofRatio (decide (a < 0)) (a.natAbs * unitsPerOne) b

/-- The value nearest to a whole number. -/
def ofInt (n : Int) : Binary64 := ofQuotient n 1

/-- The value, if it is a finite one. -/
def finite? : Binary64 → Option Finite64
  | .finite x => some x
  | _ => none

/-- Where a value lies on the extended number line; a NaN lies nowhere. -/
def place? : Binary64 → Option Place
  | .nan => none
  | .infinite true => some .negativeInfinity
  | .infinite false => some .positiveInfinity
  | .finite x => some x.place

/-- The quotient by a positive finite value. -/
def div (x : Binary64) (divisor : Magnitude) : Binary64 :=
  match x with
  | .nan => .nan
  | .infinite negative => .infinite negative
  | .finite x => ofRatio x.negative (x.magnitude.units * unitsPerOne) divisor.units

end Binary64

/-- The difference of two finite values, rounded once; equal values differ by `0.0`, except that
`-0.0` less `0.0` is `-0.0`. -/
def Finite64.sub (x y : Finite64) : Binary64 :=
  let difference := x.units - y.units
  if difference = 0 then .finite ⟨x.negative && !y.negative, .zero⟩
  else .ofRatio (decide (difference < 0)) difference.natAbs 1

end NetTimeline
