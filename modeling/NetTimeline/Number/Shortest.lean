import NetTimeline.Number.Decimal

/-!
# The shortest decimal that reads back

Of all decimals whose nearest binary64 value is a given magnitude, `Magnitude.shortest` has the
fewest digits and, among those, lies nearest to the magnitude.

Main statement: `Magnitude.toBinary64_shortest` — it does read back.
-/

set_option autoImplicit false

namespace NetTimeline

/-- The number of decimal digits. -/
def decimalLength (n : Nat) : Nat := (Nat.toDigits 10 n).length

namespace Magnitude

/-- The decimal point of a positive magnitude: `10 ^ (point - 1) ≤ m < 10 ^ point`. The factor
`10 ^ 330` lifts every positive magnitude above one. -/
def point (m : Magnitude) : Int :=
  decimalLength (m.units * Nat.pow 10 330 / unitsPerOne) - 330

/-- The numerator and the denominator of `m / 10 ^ exponent`. -/
def scaled (m : Magnitude) (exponent : Int) : Nat × Nat :=
  if 0 ≤ exponent then (m.units, unitsPerOne * Nat.pow 10 exponent.toNat)
  else (m.units * Nat.pow 10 (-exponent).toNat, unitsPerOne)

/-- The nearest multiple of `10 ^ exponent`. -/
def roundTo (m : Magnitude) (exponent : Int) : Decimal :=
  let (num, den) := m.scaled exponent
  ⟨false, roundHalfEven num den, exponent⟩

/-- Whether the nearest value of a decimal is `m`. -/
def readsBack (m : Magnitude) (d : Decimal) : Bool :=
  decide (d.toBinary64 = .finite ⟨false, m⟩)

/-- The decimals with at most `count` digits that enclose `m`, the nearer one first, when `point`
is the decimal point of `m`. -/
def neighbours (m : Magnitude) (point : Int) (count : Nat) : List Decimal :=
  let exponent := point - count
  let (num, den) := m.scaled exponent
  let nearest := roundHalfEven num den
  let other := if nearest = num / den then nearest + 1 else num / den
  [⟨false, nearest, exponent⟩, ⟨false, other, exponent⟩]

/-- All digits of `m`. -/
def expansion (m : Magnitude) : Decimal :=
  ⟨false, m.units * Nat.pow 5 unitPlaces, -(unitPlaces : Int)⟩

/-- The decimal with the fewest digits that reads back as `m`, the nearest of them; seventeen
digits are enough, and the whole expansion reads back in any case. -/
def shortest (m : Magnitude) : Decimal :=
  let point := m.point
  let found := (List.range 17).findSome? fun count =>
    (m.neighbours point (count + 1)).find? m.readsBack
  found.getD m.expansion

/-- All digits of a magnitude read back as it, since `5 ^ k / 10 ^ k` is one unit. -/
theorem toBinary64_allDigits (m : Magnitude) {k : Nat} (hunit : unitsPerOne = Nat.pow 2 k)
    (hk : 674 ≤ k) :
    (⟨false, m.units * Nat.pow 5 k, -(k : Int)⟩ : Decimal).toBinary64 = .finite ⟨false, m⟩ := by
  rw [Nat.pow_eq] at hunit ⊢
  have hfive : 0 < 5 ^ k := Nat.pow_pos (by decide)
  unfold Decimal.toBinary64
  dsimp only
  by_cases hzero : m.units = 0
  · have hm : m = .zero := by cases m; cases hzero; rfl
    simp [hm, Magnitude.zero]
  · have hne : m.units * 5 ^ k ≠ 0 := Nat.mul_ne_zero hzero (by omega)
    have hlog : k ≤ (m.units * 5 ^ k).log2 := by
      rw [Nat.le_log2 hne]
      calc 2 ^ k ≤ 5 ^ k := Nat.pow_le_pow_left (by decide) k
        _ ≤ m.units * 5 ^ k := Nat.le_mul_of_pos_left _ (by omega)
    have hten : m.units * 5 ^ k * unitsPerOne = m.units * 10 ^ k := by
      rw [hunit, Nat.mul_assoc, ← Nat.mul_pow]
    have hneg : (-(-(k : Int))).toNat = k := by omega
    rw [if_neg hne, if_neg (by omega), if_neg (by omega), if_neg (by omega), hneg, hten,
      Nat.pow_eq]
    exact Binary64.ofRatio_mul false m (Nat.pow_pos (by decide))

theorem toBinary64_expansion (m : Magnitude) :
    m.expansion.toBinary64 = .finite ⟨false, m⟩ :=
  toBinary64_allDigits m unitsPerOne_eq (by decide)

theorem toBinary64_shortest (m : Magnitude) :
    m.shortest.toBinary64 = .finite ⟨false, m⟩ := by
  unfold shortest
  dsimp only
  generalize hfound : List.findSome? _ _ = found
  cases found with
  | none => exact m.toBinary64_expansion
  | some d =>
    obtain ⟨count, -, hcount⟩ := List.exists_of_findSome?_eq_some hfound
    have hd := List.find?_some hcount
    simpa [readsBack] using hd

end Magnitude

end NetTimeline
