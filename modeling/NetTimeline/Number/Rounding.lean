/-!
# Rounding a ratio to the nearest point of a grid

A ratio of natural numbers is rounded to the nearest whole number, or to the nearest number with
at most 53 significant binary digits; a half goes to the even neighbour.

Main statements:

* `roundHalfEven_mul` — a whole number is its own rounding;
* `le_roundHalfEven`, `roundHalfEven_le` — the rounding is one of the two neighbours;
* `onGrid_roundToGrid` — what `roundToGrid` returns has at most 53 significant digits;
* `roundToGrid_mul` — a number that has is its own rounding.
-/

set_option autoImplicit false

namespace NetTimeline

/-- The whole number nearest to `num / den`; of two equally near, the even one. -/
def roundHalfEven (num den : Nat) : Nat :=
  let quotient := num / den
  let remainder := num % den
  if 2 * remainder < den then quotient
  else if den < 2 * remainder then quotient + 1
  else quotient + quotient % 2

theorem le_roundHalfEven (num den : Nat) : num / den ≤ roundHalfEven num den := by
  unfold roundHalfEven
  dsimp only
  split
  · omega
  · split <;> omega

theorem roundHalfEven_le (num den : Nat) : roundHalfEven num den ≤ num / den + 1 := by
  unfold roundHalfEven
  dsimp only
  split
  · omega
  · split <;> omega

theorem roundHalfEven_mul (n : Nat) {den : Nat} (h : 0 < den) :
    roundHalfEven (n * den) den = n := by
  simp [roundHalfEven, Nat.mul_div_cancel n h, h]

/-- The exponent of the spacing at `units`: values of up to 53 binary digits are spaced by one,
and each further digit doubles the spacing. -/
def gridExponent (units : Nat) : Nat := units.log2 - 52

/-- At most 53 significant binary digits: `units` is a multiple of its own spacing. -/
def OnGrid (units : Nat) : Prop := Nat.pow 2 (gridExponent units) ∣ units

instance (units : Nat) : Decidable (OnGrid units) :=
  inferInstanceAs (Decidable (Nat.pow 2 (gridExponent units) ∣ units))

/-- The number with at most 53 significant binary digits nearest to `num / den`; of two equally
near, the one whose last digit is even. -/
def roundToGrid (num den : Nat) : Nat :=
  let spacing := Nat.pow 2 (gridExponent (num / den))
  roundHalfEven num (den * spacing) * spacing

theorem onGrid_zero : OnGrid 0 := Nat.dvd_zero _

/-- A number below `2 ^ 53` keeps its place on the grid when it is scaled by a power of two. -/
theorem onGrid_mul_pow {m : Nat} (e : Nat) (h : m ≤ Nat.pow 2 53) :
    OnGrid (m * Nat.pow 2 e) := by
  rw [Nat.pow_eq] at h ⊢
  rcases Nat.eq_zero_or_pos m with rfl | hm
  · simpa using onGrid_zero
  have hpow : 0 < 2 ^ e := Nat.pow_pos (by decide)
  have hne : m * 2 ^ e ≠ 0 := Nat.mul_ne_zero (by omega) (by omega)
  rcases Nat.lt_or_eq_of_le h with hlt | rfl
  · have hlog : (m * 2 ^ e).log2 < 53 + e := by
      rw [Nat.log2_lt hne, Nat.pow_add]
      exact Nat.mul_lt_mul_of_pos_right hlt hpow
    have hle : gridExponent (m * 2 ^ e) ≤ e := by unfold gridExponent; omega
    exact Nat.dvd_trans (Nat.pow_dvd_pow 2 hle) (Nat.dvd_mul_left _ _)
  · have hlog : (2 ^ 53 * 2 ^ e).log2 < 53 + e + 1 := by
      rw [Nat.log2_lt hne, ← Nat.pow_add]
      exact Nat.pow_lt_pow_right (by decide) (by omega)
    have hle : gridExponent (2 ^ 53 * 2 ^ e) ≤ 53 + e := by unfold gridExponent; omega
    rw [OnGrid, Nat.pow_eq, ← Nat.pow_add] at *
    exact Nat.pow_dvd_pow 2 hle

theorem onGrid_roundToGrid (num den : Nat) : OnGrid (roundToGrid num den) := by
  unfold roundToGrid
  dsimp only
  apply onGrid_mul_pow
  refine Nat.le_trans (roundHalfEven_le _ _) ?_
  rw [← Nat.div_div_eq_div_mul, Nat.pow_eq, Nat.pow_eq]
  have hlt : num / den / 2 ^ gridExponent (num / den) < 2 ^ 53 := by
    rw [Nat.div_lt_iff_lt_mul (Nat.pow_pos (by decide)), ← Nat.pow_add]
    refine Nat.lt_of_lt_of_le Nat.lt_log2_self ?_
    apply Nat.pow_le_pow_right (by decide)
    unfold gridExponent
    omega
  omega

/-- A number on the grid is its own rounding, whatever fraction it is written as. -/
theorem roundToGrid_mul {n den : Nat} (hn : OnGrid n) (hden : 0 < den) :
    roundToGrid (n * den) den = n := by
  obtain ⟨k, hk⟩ := hn
  rw [Nat.pow_eq] at hk
  have hdiv : n * den / den = n := Nat.mul_div_cancel n hden
  have hpos : 0 < den * 2 ^ gridExponent n := Nat.mul_pos hden (Nat.two_pow_pos _)
  have hscaled : n * den = k * (den * 2 ^ gridExponent n) := by
    conv => lhs; rw [hk]
    ac_rfl
  have hround : roundHalfEven (n * den) (den * 2 ^ gridExponent n) = k := by
    rw [hscaled]
    exact roundHalfEven_mul k hpos
  simp only [roundToGrid, hdiv, Nat.pow_eq, hround]
  rw [Nat.mul_comm]
  exact hk.symm

end NetTimeline
