import NetTimeline.Number.Basic
import NetTimeline.Proofs.Number.Rounding
import NetTimeline.Proofs.Result

/-!
# Numbers at a whole number of units

`Number.LiesAt a u` says that `a` is finite, not negative, and exactly `u` units large. Whole
numbers and binary64 values are then one kind of thing: comparisons, the floor, the ceiling and
the quotient of a number are arithmetic on `u`.

Principal results:

* `LiesAt.int_le`, `LiesAt.le_int`, `LiesAt.lt_int` — exact comparison with a whole number;
* `LiesAt.div` — a quotient is the rounding of `u * unitsPerOne / divisorUnits`;
* `roundToGrid_le_mul_iff`, `mul_le_roundToGrid_iff` — below `2 ^ 53` a rounded quotient has the
  floor and the ceiling of the exact one.
-/

set_option autoImplicit false

namespace NetTimeline

/-! ## Whole numbers on the grid -/

theorem unitsPerOne_eq_pow : unitsPerOne = 2 ^ unitPlaces := by
  rw [unitsPerOne_eq, Nat.pow_eq]

theorem onGrid_mul_unitsPerOne {m : Nat} (h : m ≤ 2 ^ 53) : OnGrid (m * unitsPerOne) := by
  rw [unitsPerOne_eq]
  exact onGrid_mul_pow unitPlaces h

theorem onGrid_unitsPerOne : OnGrid unitsPerOne := by
  have := onGrid_mul_unitsPerOne (by decide : 1 ≤ 2 ^ 53)
  rwa [Nat.one_mul] at this

theorem onGrid_mul_two_pow {m : Nat} (places : Nat) (h : m ≤ 2 ^ 53) :
    OnGrid (m * 2 ^ places * unitsPerOne) := by
  rw [unitsPerOne_eq_pow, Nat.mul_assoc, ← Nat.pow_add]
  exact onGrid_mul_pow _ h

theorem spacing_dvd_unitsPerOne {u : Nat} (h : u < 2 ^ 53 * unitsPerOne) :
    spacing u ∣ unitsPerOne := by
  rw [unitsPerOne_eq_pow] at *
  exact spacing_dvd_pow h

/-- From `2 ^ 53` on a binary64 value is a whole number. -/
theorem unitsPerOne_dvd {u : Nat} (hu : OnGrid u) (h : 2 ^ 53 * unitsPerOne ≤ u) :
    unitsPerOne ∣ u := by
  rw [unitsPerOne_eq_pow] at *
  exact Nat.dvd_trans (pow_dvd_spacing h) (onGrid_iff.1 hu)

/-- The units of a quotient by at most `2 ^ 53` are far above the spacing of the least values. -/
theorem le_div_of_unitsPerOne_le {u den : Nat} (hden : 0 < den) (h53 : den ≤ 2 ^ 53)
    (hu : unitsPerOne ≤ u) : 2 ^ 52 ≤ u / den := by
  rw [Nat.le_div_iff_mul_le hden]
  calc 2 ^ 52 * den ≤ 2 ^ 52 * 2 ^ 53 := Nat.mul_le_mul_left _ h53
    _ = 2 ^ (52 + 53) := (Nat.pow_add 2 52 53).symm
    _ ≤ 2 ^ unitPlaces := Nat.pow_le_pow_right (by decide) (by decide)
    _ = unitsPerOne := unitsPerOne_eq_pow.symm
    _ ≤ u := hu

section Quotient

variable {u den k : Nat}

theorem roundToGrid_le_self (hden : 0 < den) (hu : OnGrid u) : roundToGrid u den ≤ u :=
  roundToGrid_le hden hu (Nat.le_mul_of_pos_right u hden)

/-- **A rounded quotient and the exact one have the same ceiling**, below `2 ^ 53`. -/
theorem roundToGrid_le_mul_iff (hden : 0 < den) (hd53 : den ≤ 2 ^ 53) (hu : OnGrid u)
    (hone : unitsPerOne ≤ u) (h53 : u < 2 ^ 53 * unitsPerOne) :
    roundToGrid u den ≤ k * unitsPerOne ↔ u ≤ k * unitsPerOne * den := by
  constructor
  · intro h
    by_contra hlt
    have hdvd : spacing u ∣ k * unitsPerOne * den :=
      Nat.dvd_mul_right_of_dvd (Nat.dvd_mul_left_of_dvd (spacing_dvd_unitsPerOne h53) k) den
    have := lt_roundToGrid hden hu (le_div_of_unitsPerOne_le hden hd53 hone) hdvd (by omega)
    omega
  · intro h
    rcases Nat.le_total k (2 ^ 53) with hk | hk
    · exact roundToGrid_le hden (onGrid_mul_unitsPerOne hk) h
    · calc roundToGrid u den ≤ u := roundToGrid_le_self hden hu
        _ ≤ 2 ^ 53 * unitsPerOne := Nat.le_of_lt h53
        _ ≤ k * unitsPerOne := Nat.mul_le_mul_right _ hk

/-- **A rounded quotient and the exact one have the same floor**, below `2 ^ 53`. -/
theorem mul_le_roundToGrid_iff (hden : 0 < den) (hd53 : den ≤ 2 ^ 53) (hu : OnGrid u)
    (hone : unitsPerOne ≤ u) (h53 : u < 2 ^ 53 * unitsPerOne) :
    k * unitsPerOne ≤ roundToGrid u den ↔ k * unitsPerOne * den ≤ u := by
  constructor
  · intro h
    by_contra hlt
    have hdvd : spacing u ∣ k * unitsPerOne * den :=
      Nat.dvd_mul_right_of_dvd (Nat.dvd_mul_left_of_dvd (spacing_dvd_unitsPerOne h53) k) den
    have := roundToGrid_lt hden hu (le_div_of_unitsPerOne_le hden hd53 hone) hdvd (by omega)
    omega
  · intro h
    have hk : k ≤ 2 ^ 53 := by
      by_contra hlarge
      have hle : (2 ^ 53 + 1) * unitsPerOne ≤ k * unitsPerOne := Nat.mul_le_mul_right _ (by omega)
      have hself : k * unitsPerOne ≤ k * unitsPerOne * den := Nat.le_mul_of_pos_right _ hden
      omega
    exact le_roundToGrid hden (onGrid_mul_unitsPerOne hk) h

/-- The rounded quotient of a whole number below `2 ^ 53`, taken times the divisor again, is less
than one away from the number. -/
theorem roundToGrid_mul_near {m : Nat} (hden : 0 < den) (hd53 : den ≤ 2 ^ 53) (hm : m < 2 ^ 53) :
    m * unitsPerOne < roundToGrid (m * unitsPerOne) den * den + unitsPerOne ∧
      roundToGrid (m * unitsPerOne) den * den < m * unitsPerOne + unitsPerOne := by
  have hpos := unitsPerOne_pos
  rcases Nat.eq_zero_or_pos m with rfl | hone
  · have hzero : roundToGrid 0 den = 0 := Nat.le_zero.1 (roundToGrid_le hden onGrid_zero (by omega))
    rw [Nat.zero_mul, hzero]
    omega
  · have hunits : unitsPerOne ≤ m * unitsPerOne := Nat.le_mul_of_pos_left _ hone
    have hmove := den_mul_spacing_lt (le_div_of_unitsPerOne_le hden hd53 hunits)
    have hspacing : spacing (m * unitsPerOne) ≤ unitsPerOne :=
      Nat.le_of_dvd hpos (spacing_dvd_unitsPerOne (Nat.mul_lt_mul_of_pos_right hm hpos))
    obtain ⟨hlower, hupper⟩ := roundToGrid_error (m * unitsPerOne) den hden
    omega

end Quotient

namespace Magnitude

theorem units_of_ofRatio? {num den : Nat} {m : Magnitude} (h : ofRatio? num den = some m) :
    m.units = roundToGrid num den := by
  unfold ofRatio? at h
  split at h
  · rw [← Option.some.inj h]
  · simp at h

end Magnitude

namespace Binary64

theorem exists_ofRatio (negative : Bool) {num den : Nat} (h : roundToGrid num den < unitsLimit) :
    ∃ x, ofRatio negative num den = .finite x ∧ x.negative = negative ∧
      x.magnitude.units = roundToGrid num den := by
  have hratio : Magnitude.ofRatio? num den =
      some ⟨roundToGrid num den, onGrid_roundToGrid num den, h⟩ := dif_pos h
  unfold ofRatio
  rw [hratio]
  exact ⟨_, rfl, rfl, rfl⟩

theorem eq_of_ofRatio {negative : Bool} {num den : Nat} {x : Finite64}
    (h : ofRatio negative num den = .finite x) :
    x.negative = negative ∧ x.magnitude.units = roundToGrid num den := by
  unfold ofRatio at h
  split at h
  · rename_i m hratio
    rw [← Binary64.finite.inj h]
    exact ⟨rfl, Magnitude.units_of_ofRatio? hratio⟩
  · cases h

theorem finite?_eq_some {x : Binary64} {y : Finite64} : x.finite? = some y ↔ x = .finite y := by
  cases x <;> simp [finite?]

end Binary64

/-! ## Numbers -/

namespace Number

theorem place?_int (n : Int) : (Number.int n).place? = some (.units (n * unitsPerOne)) := rfl

/-- The number is finite, not negative, and `u` units large. -/
def LiesAt (a : Number) (u : Nat) : Prop := a.place? = some (.units u)

/-- By how many units a number is divided: by the divisor itself in a quotient of whole numbers,
else by the nearest binary64 value of the divisor. -/
def divisorUnits (a : Number) (divisor : Nat) : Nat :=
  match a with
  | .int _ => divisor * unitsPerOne
  | .float _ => roundToGrid (divisor * unitsPerOne) 1

theorem le_divisorUnits (a : Number) {m divisor : Nat} (hm : m ≤ 2 ^ 53) (h : m ≤ divisor) :
    m * unitsPerOne ≤ a.divisorUnits divisor := by
  have hle : m * unitsPerOne ≤ divisor * unitsPerOne := Nat.mul_le_mul_right _ h
  cases a with
  | int n => exact hle
  | float x => exact le_roundToGrid (by decide) (onGrid_mul_unitsPerOne hm) (by omega)

theorem divisorUnits_eq (a : Number) {divisor : Nat} (h : divisor ≤ 2 ^ 53) :
    a.divisorUnits divisor = divisor * unitsPerOne := by
  cases a with
  | int n => rfl
  | float x => exact roundToGrid_one (onGrid_mul_unitsPerOne h)

theorem divisorUnits_pos (a : Number) {divisor : Nat} (h : 0 < divisor) :
    0 < a.divisorUnits divisor := by
  have := le_divisorUnits a (by decide : 1 ≤ 2 ^ 53) h
  have := unitsPerOne_pos
  omega

/-- Nothing is both less than a number and at least as great. -/
theorem lt_eq_false_of_le {a b : Number} (h : Number.le b a = true) : a.lt b = false := by
  unfold le at h
  unfold lt
  cases ha : a.place? with
  | none => rfl
  | some p =>
    cases hb : b.place? with
    | none => rfl
    | some q =>
      simp only [ha, hb, decide_eq_true_eq] at h
      simp only [decide_eq_false_iff_not]
      exact fun hlt => hlt h

/-- A quotient of whole numbers is finite. -/
theorem eq_of_div_int {m : Int} {n : Nat} {q : Binary64} (h : (Number.int m).div n = .ok q) :
    ∃ x, Binary64.ofQuotient m n = .finite x ∧ q = .finite x := by
  rw [Number.div.eq_1] at h
  obtain ⟨x, hx, hq⟩ := Option.elim_eq_ok.1 h
  exact ⟨x, Binary64.finite?_eq_some.1 hx, (Except.ok.inj hq).symm⟩

theorem eq_of_div_float {x q : Binary64} {n : Nat} (h : (Number.float x).div n = .ok q) :
    ∃ d, Magnitude.ofNat? n = some d ∧ q = x.div d := by
  rw [Number.div.eq_2] at h
  obtain ⟨d, hd, hq⟩ := Option.elim_eq_ok.1 h
  exact ⟨d, hd, (Except.ok.inj hq).symm⟩

namespace LiesAt

variable {a : Number} {u : Nat}

/-- A whole number that lies at `u` units is a natural number. -/
theorem eq_int {n : Int} (h : (Number.int n).LiesAt u) : ∃ m : Nat, n = m ∧ u = m * unitsPerOne := by
  have hunits : n * unitsPerOne = u := by simpa [LiesAt, place?] using h
  have hpos : (0 : Int) < unitsPerOne := by exact_mod_cast unitsPerOne_pos
  have hn : 0 ≤ n := by
    by_contra hneg
    have : n * unitsPerOne < 0 := Int.mul_neg_of_neg_of_pos (by omega) hpos
    omega
  obtain ⟨m, rfl⟩ := Int.eq_ofNat_of_zero_le hn
  exact ⟨m, rfl, by exact_mod_cast hunits.symm⟩

theorem int (m : Nat) : (Number.int m).LiesAt (m * unitsPerOne) := by
  simp [LiesAt, place?]

/-- A binary64 value that lies at `u` units is finite, and its magnitude is `u` units. -/
theorem eq_float {x : Binary64} (h : (Number.float x).LiesAt u) :
    ∃ y : Finite64, x = .finite y ∧ y.magnitude.units = u ∧ (y.negative = true → u = 0) := by
  cases x with
  | nan => cases h
  | infinite negative => cases negative <;> cases h
  | finite y =>
    have hunits : y.units = u := by simpa [LiesAt, place?, Binary64.place?, Finite64.place] using h
    unfold Finite64.units at hunits
    refine ⟨y, rfl, ?_, ?_⟩
    · split at hunits <;> omega
    · intro hneg
      rw [if_pos hneg] at hunits
      omega

theorem finite {y : Finite64} (hu : y.magnitude.units = u) (hneg : y.negative = true → u = 0) :
    (Number.float (.finite y)).LiesAt u := by
  have hunits : y.units = u := by
    unfold Finite64.units
    split
    · rename_i h; have := hneg h; omega
    · omega
  simp [LiesAt, place?, Binary64.place?, Finite64.place, hunits]

theorem onGrid_float {x : Binary64} (h : (Number.float x).LiesAt u) : OnGrid u := by
  obtain ⟨y, -, rfl, -⟩ := h.eq_float
  exact y.magnitude.onGrid

/-- Below `2 ^ 53` a whole number is on the grid too. -/
theorem onGrid (h : a.LiesAt u) (h53 : u < 2 ^ 53 * unitsPerOne) : OnGrid u := by
  cases a with
  | int n =>
    obtain ⟨m, -, rfl⟩ := h.eq_int
    exact onGrid_mul_unitsPerOne (Nat.le_of_lt (Nat.lt_of_mul_lt_mul_right h53))
  | float x => exact h.onGrid_float

/-! ### Comparison -/

theorem int_le (h : a.LiesAt u) (n : Nat) :
    Number.le (.int n) a = true ↔ n * unitsPerOne ≤ u := by
  have hplace : a.place? = some (.units u) := h
  simp only [Number.le, hplace, place?_int, decide_eq_true_eq, Place.units_le_units]
  norm_cast

theorem le_int (h : a.LiesAt u) (n : Nat) :
    a.le (.int n) = true ↔ u ≤ n * unitsPerOne := by
  have hplace : a.place? = some (.units u) := h
  simp only [Number.le, hplace, place?_int, decide_eq_true_eq, Place.units_le_units]
  norm_cast

theorem lt_int (h : a.LiesAt u) (n : Nat) :
    a.lt (.int n) = true ↔ u < n * unitsPerOne := by
  have hplace : a.place? = some (.units u) := h
  simp only [Number.lt, hplace, place?_int, decide_eq_true_eq, Place.units_lt_units]
  norm_cast

theorem int_lt (h : a.LiesAt u) (n : Nat) :
    Number.lt (.int n) a = true ↔ n * unitsPerOne < u := by
  have hplace : a.place? = some (.units u) := h
  simp only [Number.lt, hplace, place?_int, decide_eq_true_eq, Place.units_lt_units]
  norm_cast

theorem zero_lt (h : a.LiesAt u) : Number.lt (.int 0) a = true ↔ 0 < u := by
  have := h.int_lt 0
  rwa [Nat.zero_mul] at this

theorem one_le (h : a.LiesAt u) : Number.le (.int 1) a = true ↔ unitsPerOne ≤ u := by
  have := h.int_le 1
  rwa [Nat.one_mul] at this

theorem le_iff {b : Number} {v : Nat} (ha : a.LiesAt u) (hb : b.LiesAt v) :
    a.le b = true ↔ u ≤ v := by
  have hplace : a.place? = some (.units u) := ha
  have hplace' : b.place? = some (.units v) := hb
  simp only [Number.le, hplace, hplace', decide_eq_true_eq, Place.units_le_units]
  norm_cast

/-- A number that is not below zero and not above some whole number lies somewhere. -/
theorem of_toBinary64 {x : Finite64} (hx : a.toBinary64 = .ok (.finite x))
    (hlt : a.lt (.int 0) = false) : ∃ u, a.LiesAt u := by
  have hpos : (0 : Int) < unitsPerOne := by exact_mod_cast unitsPerOne_pos
  cases a with
  | int n =>
    rw [Number.lt_int_int, decide_eq_false_iff_not, Int.not_lt] at hlt
    obtain ⟨m, rfl⟩ := Int.eq_ofNat_of_zero_le hlt
    exact ⟨_, LiesAt.int m⟩
  | float y =>
    have hy : y = .finite x := Except.ok.inj hx
    subst hy
    have hunits : 0 ≤ x.units := by
      simpa [Number.lt, place?, Binary64.place?, Finite64.place] using hlt
    refine ⟨x.units.toNat, ?_⟩
    simp only [LiesAt, place?, Binary64.place?, Finite64.place, Option.some.injEq,
      Place.units.injEq]
    omega

/-! ### Floor, ceiling, quotient -/

theorem floor (h : a.LiesAt u) : a.floor = .ok ((u / unitsPerOne : Nat) : Int) := by
  cases a with
  | int n =>
    obtain ⟨m, rfl, rfl⟩ := h.eq_int
    rw [Nat.mul_div_cancel m unitsPerOne_pos]
    rfl
  | float x =>
    cases x with
    | finite y =>
      have hunits : y.units = u := by simpa [LiesAt, place?, Binary64.place?, Finite64.place] using h
      simp [Number.floor, Binary64.floor, Binary64.toUnits, hunits, Except.map]
    | nan => cases h
    | infinite negative => cases negative <;> cases h

theorem ceil {x : Binary64} (h : (Number.float x).LiesAt u) :
    ∃ c : Nat, x.ceil = .ok (c : Int) ∧ ∀ k : Nat, c ≤ k ↔ u ≤ k * unitsPerOne := by
  obtain ⟨y, rfl, -, -⟩ := h.eq_float
  have hunits : y.units = u := by simpa [LiesAt, place?, Binary64.place?, Finite64.place] using h
  have hpos : (0 : Int) < unitsPerOne := by exact_mod_cast unitsPerOne_pos
  have hceil (k : Int) : -(-(u : Int) / unitsPerOne) ≤ k ↔ (u : Int) ≤ k * unitsPerOne := by
    have := Int.le_ediv_iff_mul_le (a := -k) (b := -(u : Int)) hpos
    rw [Int.neg_mul] at this
    omega
  have hnonneg : 0 ≤ -(-(u : Int) / unitsPerOne) := by
    have := Int.ediv_nonpos_of_nonpos_of_neg (show -(u : Int) ≤ 0 by omega) hpos
    omega
  obtain ⟨c, hc⟩ := Int.eq_ofNat_of_zero_le hnonneg
  refine ⟨c, ?_, ?_⟩
  · simp only [Binary64.ceil, Binary64.toUnits, hunits, Except.map, hc]
  · intro k
    have := hceil k
    rw [hc] at this
    exact_mod_cast this

/-- **A quotient is the rounding of the exact quotient of the units.** -/
theorem div {q : Binary64} {n : Nat} (h : a.LiesAt u) (hn : 0 < n) (hq : a.div n = .ok q) :
    (Number.float q).LiesAt (roundToGrid (u * unitsPerOne) (a.divisorUnits n)) := by
  cases a with
  | int m =>
    obtain ⟨m, rfl, rfl⟩ := h.eq_int
    obtain ⟨y, hy, rfl⟩ := Number.eq_of_div_int hq
    obtain ⟨hsign, hunits⟩ := Binary64.eq_of_ofRatio hy
    rw [divisorUnits, roundToGrid_mul_right _ _ unitsPerOne_pos]
    apply LiesAt.finite hunits
    intro hnegative
    rw [hsign, decide_eq_true_eq] at hnegative
    omega
  | float x =>
    have hone := le_divisorUnits (.float x) (by decide : 1 ≤ 2 ^ 53) hn
    obtain ⟨y, rfl, rfl, hneg⟩ := h.eq_float
    obtain ⟨d, hd, rfl⟩ := Number.eq_of_div_float hq
    have hunits : d.units = roundToGrid (n * unitsPerOne) 1 := Magnitude.units_of_ofRatio? hd
    simp only [divisorUnits, ← hunits] at hone ⊢
    have hdivisor : 0 < d.units := by have := unitsPerOne_pos; omega
    -- dividing by one or more does not leave the finite values
    have hbound : roundToGrid (y.magnitude.units * unitsPerOne) d.units < unitsLimit := by
      refine Nat.lt_of_le_of_lt (roundToGrid_le hdivisor y.magnitude.onGrid ?_)
        y.magnitude.bounded
      exact Nat.mul_le_mul_left _ (by omega)
    obtain ⟨z, hz, hsign, hsize⟩ := Binary64.exists_ofRatio y.negative hbound
    rw [show (Binary64.finite y).div d = .finite z from hz]
    apply LiesAt.finite hsize
    intro hnegative
    rw [hneg (hsign ▸ hnegative), Nat.zero_mul]
    exact Nat.le_zero.1 (roundToGrid_le hdivisor onGrid_zero (by omega))

end LiesAt

end Number

end NetTimeline
