import Mathlib.Data.Nat.Digits.Defs
import NetTimeline.Proofs.Number.Units

/-!
# Which numbers have a finite value

A ratio is rounded to a finite value exactly if it is below `2 ^ 1024 - 2 ^ 970`: that number lies
halfway between the greatest finite value and the first power of two beyond them, and the half is
rounded up. `wholeBound` is this number, `Number.Converts` says that a number is below it.

Principal results:

* `roundToGrid_lt_unitsLimit_iff` — the bound, for any ratio;
* `Binary64.ofRatio_infinite_iff` — from the bound on, and no sooner, a ratio is infinite;
* `Number.exists_div` — a number that converts has a quotient.
-/

set_option autoImplicit false

namespace NetTimeline

/-! ## The bound of the finite values -/

/-- A half is rounded up to an even number. -/
theorem le_roundHalfEven_of_half {num den m : Nat} (hden : 0 < den) (heven : m % 2 = 0)
    (h : (2 * m - 1) * den ≤ 2 * num) : m ≤ roundHalfEven num den := by
  have hdiv : den * (num / den) + num % den = num := Nat.div_add_mod num den
  have hmod : num % den < den := Nat.mod_lt num hden
  rcases Nat.lt_or_ge (num / den) m with hlt | hge
  · have hquotient : num / den = m - 1 := by
      have hfew : (2 * m - 1) * den < (2 * (num / den) + 2) * den := by
        calc (2 * m - 1) * den ≤ 2 * num := h
          _ < 2 * (den * (num / den)) + 2 * den := by omega
          _ = (2 * (num / den) + 2) * den := by ring
      have := Nat.lt_of_mul_lt_mul_right hfew
      omega
    have hhalf : den ≤ 2 * (num % den) := by
      have hsplit : (2 * m - 1) * den = 2 * (den * (num / den)) + den := by
        rw [hquotient, show 2 * m - 1 = 2 * (m - 1) + 1 by omega]
        ring
      omega
    unfold roundHalfEven
    dsimp only
    rw [if_neg (by omega)]
    split <;> omega
  · exact Nat.le_trans hge (le_roundHalfEven num den)

theorem spacing_eq {units e : Nat} (hlow : 2 ^ 52 * 2 ^ e ≤ units)
    (hhigh : units < 2 ^ 53 * 2 ^ e) : spacing units = 2 ^ e := by
  have hpow : 0 < 2 ^ e := Nat.two_pow_pos e
  have hlog : units.log2 = 52 + e := by
    rw [Nat.log2_eq_iff (by omega)]
    refine ⟨by rwa [Nat.pow_add], ?_⟩
    rwa [show 52 + e + 1 = 53 + e by omega, Nat.pow_add]
  rw [spacing, gridExponent, hlog, Nat.add_sub_cancel_left]

/-- A ratio is rounded to less than a power of two exactly if it is more than half a spacing
short of it. -/
theorem roundToGrid_lt_pow_iff {num den : Nat} (e : Nat) (hden : 0 < den) :
    roundToGrid num den < 2 ^ 54 * 2 ^ e ↔ num < (2 ^ 54 - 1) * 2 ^ e * den := by
  have hdouble : 2 ^ (e + 1) = 2 * 2 ^ e := Nat.pow_succ'
  constructor
  · intro hround
    by_contra hnum
    rcases Nat.lt_or_ge (num / den) (2 ^ 54 * 2 ^ e) with hbelow | habove
    · have hfar : (2 ^ 54 - 1) * 2 ^ e ≤ num / den :=
        (Nat.le_div_iff_mul_le hden).2 (by omega)
      have hspacing : spacing (num / den) = 2 ^ (e + 1) := spacing_eq (by omega) (by omega)
      have hcount : 2 ^ 53 ≤ roundHalfEven num (den * 2 ^ (e + 1)) := by
        refine le_roundHalfEven_of_half (Nat.mul_pos hden (Nat.two_pow_pos _)) (by decide) ?_
        calc (2 * 2 ^ 53 - 1) * (den * 2 ^ (e + 1)) = 2 * ((2 ^ 54 - 1) * 2 ^ e * den) := by
              rw [hdouble]; ring
          _ ≤ 2 * num := by omega
      have hreach : 2 ^ 53 * 2 ^ (e + 1) ≤ roundToGrid num den := by
        rw [roundToGrid_eq, hspacing]
        exact Nat.mul_le_mul_right _ hcount
      omega
    · have hgrid : OnGrid (2 ^ 54 * 2 ^ e) := by
        have := onGrid_mul_pow (54 + e) (by decide : 1 ≤ Nat.pow 2 53)
        rwa [Nat.one_mul, Nat.pow_eq, Nat.pow_add] at this
      have := le_roundToGrid hden hgrid ((Nat.le_div_iff_mul_le hden).1 habove)
      omega
  · intro hnum
    obtain ⟨-, herror⟩ := roundToGrid_error num den hden
    have hfloor : num / den < 2 ^ 53 * 2 ^ (e + 1) := by
      have := (Nat.div_lt_iff_lt_mul hden).2 hnum
      omega
    have hspacing : spacing (num / den) ≤ 2 ^ (e + 1) :=
      Nat.le_of_dvd (Nat.two_pow_pos _) (spacing_dvd_pow hfloor)
    have hbound : 2 * (roundToGrid num den * den) < 2 * (2 ^ 54 * 2 ^ e * den) := by
      calc 2 * (roundToGrid num den * den)
          ≤ 2 * num + den * 2 ^ (e + 1) :=
            Nat.le_trans herror (Nat.add_le_add_left (Nat.mul_le_mul_left den hspacing) _)
        _ < 2 * ((2 ^ 54 - 1) * 2 ^ e * den) + den * 2 ^ (e + 1) := by omega
        _ = 2 * (2 ^ 54 * 2 ^ e * den) := by rw [hdouble]; ring
    exact Nat.lt_of_mul_lt_mul_right (show _ * den < _ * den by omega)

/-- The binary places of half the spacing of the greatest finite values. -/
@[irreducible]
def halfSpacingPlaces : Nat := 970

/-- The first whole number that is rounded beyond the finite values, `2 ^ 1024 - 2 ^ 970`. -/
def wholeBound : Nat := (2 ^ 54 - 1) * 2 ^ halfSpacingPlaces

theorem wholeBound_units :
    wholeBound * unitsPerOne = (2 ^ 54 - 1) * 2 ^ (halfSpacingPlaces + unitPlaces) := by
  rw [wholeBound, unitsPerOne_eq_pow, Nat.mul_assoc, ← Nat.pow_add]

theorem unitsLimit_eq_pow : unitsLimit = 2 ^ 54 * 2 ^ (halfSpacingPlaces + unitPlaces) := by
  have hplaces : 8 * 128 + unitPlaces = 54 + (halfSpacingPlaces + unitPlaces) := by
    unfold halfSpacingPlaces
    omega
  simp only [unitsLimit_eq, Nat.pow_eq, ← Nat.pow_add, hplaces]

/-- **A ratio is rounded to a finite value exactly if it is below `wholeBound`.** -/
theorem roundToGrid_lt_unitsLimit_iff {num den : Nat} (hden : 0 < den) :
    roundToGrid num den < unitsLimit ↔ num < wholeBound * unitsPerOne * den := by
  rw [unitsLimit_eq_pow, wholeBound_units]
  exact roundToGrid_lt_pow_iff _ hden

theorem mul_unitsPerOne_lt_iff {n divisor : Nat} :
    n * unitsPerOne < wholeBound * unitsPerOne * divisor ↔ n < wholeBound * divisor := by
  rw [Nat.mul_right_comm, Nat.mul_lt_mul_right unitsPerOne_pos]

/-- The finite powers of two are below the bound. -/
theorem two_pow_lt_wholeBound {e : Nat} (h : e ≤ 53 + halfSpacingPlaces) : 2 ^ e < wholeBound := by
  calc 2 ^ e ≤ 2 ^ (53 + halfSpacingPlaces) := Nat.pow_le_pow_right (by decide) h
    _ = 2 ^ 53 * 2 ^ halfSpacingPlaces := Nat.pow_add _ _ _
    _ < wholeBound := Nat.mul_lt_mul_of_pos_right (by decide) (Nat.two_pow_pos _)

theorem pow_lt_wholeBound : 2 ^ 53 < wholeBound := two_pow_lt_wholeBound (Nat.le_add_right 53 _)

theorem wholeBound_units_pos : 0 < wholeBound * unitsPerOne :=
  Nat.mul_pos (Nat.lt_trans (by decide) pow_lt_wholeBound) unitsPerOne_pos

namespace Magnitude

theorem ofRatio?_isSome_iff {num den : Nat} (hden : 0 < den) :
    (ofRatio? num den).isSome ↔ num < wholeBound * unitsPerOne * den := by
  rw [← roundToGrid_lt_unitsLimit_iff hden]
  unfold ofRatio?
  split <;> simp_all

theorem ofNat?_isSome_iff {n : Nat} : (ofNat? n).isSome ↔ n < wholeBound := by
  rw [ofNat?, ofRatio?_isSome_iff (by decide), mul_unitsPerOne_lt_iff, Nat.mul_one]

end Magnitude

namespace Binary64

variable {negative : Bool} {num den : Nat}

theorem ofRatio_finite_iff (hden : 0 < den) :
    (∃ x, ofRatio negative num den = .finite x) ↔ num < wholeBound * unitsPerOne * den := by
  rw [← Magnitude.ofRatio?_isSome_iff hden]
  unfold ofRatio
  cases Magnitude.ofRatio? num den <;> simp

theorem ofRatio_infinite_iff (hden : 0 < den) :
    ofRatio negative num den = .infinite negative ↔ wholeBound * unitsPerOne * den ≤ num := by
  rw [← Nat.not_lt, ← Magnitude.ofRatio?_isSome_iff hden]
  unfold ofRatio
  cases Magnitude.ofRatio? num den <;> simp

theorem finite?_ofQuotient {a : Int} {b : Nat} (hb : 0 < b) :
    (ofQuotient a b).finite?.isSome ↔ a.natAbs < wholeBound * b := by
  rw [← mul_unitsPerOne_lt_iff, ← ofRatio_finite_iff hb, Option.isSome_iff_exists]
  simp only [finite?_eq_some]
  rw [ofQuotient]

/-- Up to `2 ^ 53` a whole number is itself a binary64 value. -/
theorem exists_units_ofInt {n : Int} (h53 : n.natAbs ≤ 2 ^ 53) :
    ∃ x : Finite64, ofInt n = .finite x ∧ x.units = n * unitsPerOne := by
  have hbounded : n.natAbs * unitsPerOne < wholeBound * unitsPerOne * 1 := by
    rw [mul_unitsPerOne_lt_iff, Nat.mul_one]
    exact Nat.lt_of_le_of_lt h53 pow_lt_wholeBound
  obtain ⟨x, hx⟩ := (ofRatio_finite_iff (by decide)).2 hbounded
  have hvalue : ofInt n = .finite x := hx
  obtain ⟨hsign, hunits⟩ := eq_of_ofRatio hvalue
  rw [roundToGrid_one (onGrid_mul_unitsPerOne h53)] at hunits
  refine ⟨x, hvalue, ?_⟩
  rw [Finite64.units, hsign, hunits, Nat.cast_mul]
  rcases lt_or_ge n 0 with hnegative | hpositive
  · rw [decide_eq_true hnegative, if_pos rfl, Int.ofNat_natAbs_of_nonpos (Int.le_of_lt hnegative),
      Int.neg_mul, Int.neg_neg]
  · rw [decide_eq_false (Int.not_lt.2 hpositive), if_neg Bool.false_ne_true,
      Int.natAbs_of_nonneg hpositive]

end Binary64

/-! ## Numbers -/

theorem decimalLength_le {n e : Nat} (he : 0 < e) (h : n < 10 ^ e) : decimalLength n ≤ e :=
  Nat.toDigits_length 10 n e he h

namespace Number

/-- The nearest binary64 value of the number is finite, or the number is a binary64 value. -/
def Converts : Number → Prop
  | .int n => n.natAbs < wholeBound
  | .float _ => True

/-- The divisor need not be converted, or it converts. -/
def DividesBy : Number → Nat → Prop
  | .int _, _ => True
  | .float _, divisor => divisor < wholeBound

theorem exists_toBinary64 {a : Number} (h : a.Converts) : ∃ x, a.toBinary64 = .ok x := by
  cases a with
  | float x => exact ⟨x, rfl⟩
  | int n =>
    have hfinite : (Binary64.ofInt n).finite?.isSome :=
      (Binary64.finite?_ofQuotient (by decide)).2 (by rwa [Nat.mul_one])
    obtain ⟨x, hx⟩ := Option.isSome_iff_exists.1 hfinite
    exact ⟨.finite x, by simp [toBinary64, hx]⟩

theorem toBinary64_eq_error {a : Number} (h : ¬ a.Converts) :
    a.toBinary64 = .error .wholeTooLarge := by
  cases a with
  | float x => exact absurd trivial h
  | int n =>
    have hnone : (Binary64.ofInt n).finite? = none := by
      rw [← Option.not_isSome_iff_eq_none, Binary64.ofInt,
        Binary64.finite?_ofQuotient (by decide), Nat.mul_one]
      exact h
    simp [toBinary64, hnone]

/-- A number that converts has few enough digits to be shown. -/
theorem exists_text {a : Number} (h : a.Converts) : ∃ text, a.text = .ok text := by
  cases a with
  | float x => exact ⟨_, rfl⟩
  | int n =>
    have hlength : decimalLength n.natAbs ≤ 54 + halfSpacingPlaces := by
      apply decimalLength_le (by omega)
      calc n.natAbs < wholeBound := h
        _ ≤ 2 ^ 54 * 2 ^ halfSpacingPlaces := Nat.mul_le_mul_right _ (by decide)
        _ = 2 ^ (54 + halfSpacingPlaces) := (Nat.pow_add _ _ _).symm
        _ ≤ 10 ^ (54 + halfSpacingPlaces) := Nat.pow_le_pow_left (by decide) _
    have hfew : 54 + halfSpacingPlaces ≤ maxIntDigits := by
      unfold halfSpacingPlaces
      decide
    exact ⟨_, if_pos (Nat.le_trans hlength hfew)⟩

/-- **A number that converts has a quotient** by what it is divided by as it is. -/
theorem exists_div {a : Number} {n : Nat} (hn : 0 < n) (ha : a.Converts) (hdiv : a.DividesBy n) :
    ∃ q, a.div n = .ok q := by
  cases a with
  | float x =>
    obtain ⟨d, hd⟩ := Option.isSome_iff_exists.1 (Magnitude.ofNat?_isSome_iff.2 hdiv)
    exact ⟨x.div d, by simp [div, hd]⟩
  | int m =>
    have hfinite : (Binary64.ofQuotient m n).finite?.isSome :=
      (Binary64.finite?_ofQuotient hn).2
        (Nat.lt_of_lt_of_le ha (Nat.le_mul_of_pos_right _ hn))
    obtain ⟨x, hx⟩ := Option.isSome_iff_exists.1 hfinite
    exact ⟨.finite x, by simp [div, hx]⟩

theorem div_eq_error {a : Number} {n : Nat} (hdiv : ¬ a.DividesBy n) :
    a.div n = .error .wholeTooLarge := by
  cases a with
  | int m => exact absurd trivial hdiv
  | float x =>
    have hnone : Magnitude.ofNat? n = none := by
      rw [← Option.not_isSome_iff_eq_none, Magnitude.ofNat?_isSome_iff]
      exact hdiv
    simp [div, hnone]

theorem dividesBy_of_le (a : Number) {n : Nat} (h : n ≤ 2 ^ 53) : a.DividesBy n := by
  cases a with
  | int m => trivial
  | float x => exact Nat.lt_of_le_of_lt h pow_lt_wholeBound

/-- A number that lies at some number of units and converts is below the bound. -/
theorem LiesAt.lt_wholeBound {a : Number} {u : Nat} (h : a.LiesAt u) (ha : a.Converts) :
    u < wholeBound * unitsPerOne := by
  cases a with
  | int n =>
    obtain ⟨m, rfl, rfl⟩ := h.eq_int
    exact Nat.mul_lt_mul_of_pos_right ha unitsPerOne_pos
  | float x =>
    obtain ⟨y, -, rfl, -⟩ := h.eq_float
    have hround := y.magnitude.bounded
    rw [← roundToGrid_one y.magnitude.onGrid, roundToGrid_lt_unitsLimit_iff (by decide),
      Nat.mul_one] at hround
    exact hround

end Number

end NetTimeline
