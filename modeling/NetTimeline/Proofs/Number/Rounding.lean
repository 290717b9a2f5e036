import Mathlib.Tactic.Ring
import NetTimeline.Number.Rounding

/-!
# The order laws of rounding

A rounded ratio never passes a grid point: `roundToGrid_le` and `le_roundToGrid`. Together with the
bound `roundToGrid_error` on the distance they say all that the searches for a step need to know
about one rounded quotient; `roundToGrid_mono` compares two.

Principal results:

* `roundToGrid_mul_right` — the rounding depends on the ratio alone;
* `roundToGrid_mono` — a larger ratio is not rounded to a smaller number;
* `roundToGrid_lt`, `lt_roundToGrid` — the rounded quotient of a grid number stays on its side of
  any number whose product with the divisor is a multiple of the number's own spacing.
-/

set_option autoImplicit false

namespace NetTimeline

/-! ## Rounding to a whole number -/

theorem roundHalfEven_error (num den : Nat) (hden : 0 < den) :
    2 * num ≤ 2 * (roundHalfEven num den * den) + den ∧
      2 * (roundHalfEven num den * den) ≤ 2 * num + den := by
  have hdiv : den * (num / den) + num % den = num := Nat.div_add_mod num den
  have hmod : num % den < den := Nat.mod_lt num hden
  rw [Nat.mul_comm] at hdiv
  have hsucc : (num / den + 1) * den = num / den * den + den := Nat.succ_mul _ _
  unfold roundHalfEven
  dsimp only
  split
  · omega
  · split
    · omega
    · -- a half: the quotient itself if it is even, else its successor
      rcases Nat.mod_two_eq_zero_or_one (num / den) with heven | hodd
      · rw [heven, Nat.add_zero]; omega
      · rw [hodd]; omega

theorem le_roundHalfEven_of_mul_le {num den m : Nat} (hden : 0 < den) (h : m * den ≤ num) :
    m ≤ roundHalfEven num den :=
  Nat.le_trans ((Nat.le_div_iff_mul_le hden).2 h) (le_roundHalfEven num den)

theorem roundHalfEven_le_of_le_mul {num den m : Nat} (hden : 0 < den) (h : num ≤ m * den) :
    roundHalfEven num den ≤ m := by
  obtain ⟨-, herror⟩ := roundHalfEven_error num den hden
  by_contra hlt
  have hnext : (m + 1) * den ≤ roundHalfEven num den * den := Nat.mul_le_mul_right den (by omega)
  rw [Nat.succ_mul] at hnext
  omega

/-- The whole number that is nearer to the ratio than a half is its rounding. -/
theorem roundHalfEven_eq {num den m : Nat} (hden : 0 < den)
    (hbelow : 2 * num < 2 * (m * den) + den) (habove : 2 * (m * den) < 2 * num + den) :
    roundHalfEven num den = m := by
  obtain ⟨hlower, hupper⟩ := roundHalfEven_error num den hden
  apply Nat.le_antisymm
  · have hlt : roundHalfEven num den * den < (m + 1) * den := by
      rw [Nat.succ_mul]
      omega
    exact Nat.le_of_lt_succ (Nat.lt_of_mul_lt_mul_right hlt)
  · have hlt : m * den < (roundHalfEven num den + 1) * den := by
      rw [Nat.succ_mul]
      omega
    exact Nat.le_of_lt_succ (Nat.lt_of_mul_lt_mul_right hlt)

theorem roundHalfEven_mul_right (num den : Nat) {c : Nat} (hc : 0 < c) :
    roundHalfEven (num * c) (den * c) = roundHalfEven num den := by
  have hquotient : num * c / (den * c) = num / den := Nat.mul_div_mul_right num den hc
  have hremainder : num * c % (den * c) = num % den * c := Nat.mul_mod_mul_right c num den
  have hleft : 2 * (num % den * c) < den * c ↔ 2 * (num % den) < den := by
    rw [← Nat.mul_assoc, Nat.mul_lt_mul_right hc]
  have hright : den * c < 2 * (num % den * c) ↔ den < 2 * (num % den) := by
    rw [← Nat.mul_assoc, Nat.mul_lt_mul_right hc]
  simp only [roundHalfEven, hquotient, hremainder, hleft, hright]

theorem roundHalfEven_mono_left {num num' : Nat} (den : Nat) (h : num ≤ num') :
    roundHalfEven num den ≤ roundHalfEven num' den := by
  rcases Nat.lt_or_ge (num / den) (num' / den) with hlt | hge
  · calc roundHalfEven num den ≤ num / den + 1 := roundHalfEven_le num den
      _ ≤ num' / den := hlt
      _ ≤ roundHalfEven num' den := le_roundHalfEven num' den
  · have hquotient : num / den = num' / den := Nat.le_antisymm (Nat.div_le_div_right h) hge
    have hremainder : num % den ≤ num' % den := by
      have hnum := Nat.div_add_mod num den
      have hnum' := Nat.div_add_mod num' den
      rw [hquotient] at hnum
      omega
    unfold roundHalfEven
    dsimp only
    rw [hquotient]
    split
    · split
      · exact Nat.le_refl _
      · split <;> omega
    · split
      · rw [if_neg (by omega), if_pos (by omega)]
      · rw [if_neg (by omega)]
        split <;> omega

/-- A larger ratio is not rounded to a smaller whole number. -/
theorem roundHalfEven_mono {num num' den den' : Nat} (hden : 0 < den) (hden' : 0 < den')
    (h : num * den' ≤ num' * den) : roundHalfEven num den ≤ roundHalfEven num' den' :=
  calc roundHalfEven num den = roundHalfEven (num * den') (den * den') :=
        (roundHalfEven_mul_right num den hden').symm
    _ ≤ roundHalfEven (num' * den) (den * den') := roundHalfEven_mono_left _ h
    _ = roundHalfEven (num' * den) (den' * den) := by rw [Nat.mul_comm den den']
    _ = roundHalfEven num' den' := roundHalfEven_mul_right num' den' hden

/-! ## The spacing of the grid -/

/-- The distance from `units` to its neighbours on the grid. -/
def spacing (units : Nat) : Nat := 2 ^ gridExponent units

theorem spacing_pos (units : Nat) : 0 < spacing units := Nat.two_pow_pos _

theorem gridExponent_mono {m n : Nat} (h : m ≤ n) : gridExponent m ≤ gridExponent n := by
  unfold gridExponent
  rcases Nat.eq_zero_or_pos m with rfl | hm
  · simp
  · have hlog : m.log2 ≤ n.log2 :=
      (Nat.le_log2 (by omega)).2 (Nat.le_trans (Nat.log2_self_le (by omega)) h)
    omega

theorem spacing_dvd_spacing {m n : Nat} (h : m ≤ n) : spacing m ∣ spacing n :=
  Nat.pow_dvd_pow 2 (gridExponent_mono h)

theorem onGrid_iff {units : Nat} : OnGrid units ↔ spacing units ∣ units := Iff.rfl

/-- The spacing is at most the `2 ^ 52`-th part of a number of that many units. -/
theorem spacing_mul_le {units : Nat} (h : 2 ^ 52 ≤ units) : spacing units * 2 ^ 52 ≤ units := by
  have hne : units ≠ 0 := by omega
  have hlog : 52 ≤ units.log2 := (Nat.le_log2 hne).2 h
  unfold spacing gridExponent
  rw [← Nat.pow_add, Nat.sub_add_cancel hlog]
  exact Nat.log2_self_le hne

/-- A number of units is less than `2 ^ 53` times its spacing. -/
theorem lt_spacing_mul (units : Nat) : units < spacing units * 2 ^ 53 := by
  refine Nat.lt_of_lt_of_le Nat.lt_log2_self ?_
  unfold spacing gridExponent
  rw [← Nat.pow_add]
  exact Nat.pow_le_pow_right (by decide) (by omega)

theorem spacing_dvd_pow {units e : Nat} (h : units < 2 ^ 53 * 2 ^ e) : spacing units ∣ 2 ^ e := by
  rcases Nat.eq_zero_or_pos units with rfl | hpos
  · simp [spacing, gridExponent]
  · have hlog : units.log2 < 53 + e := by
      rw [Nat.log2_lt (by omega), Nat.pow_add]
      exact h
    exact Nat.pow_dvd_pow 2 (by unfold gridExponent; omega)

theorem pow_dvd_spacing {units e : Nat} (h : 2 ^ 53 * 2 ^ e ≤ units) : 2 ^ e ∣ spacing units := by
  have hpos : 0 < 2 ^ 53 * 2 ^ e := Nat.mul_pos (by decide) (Nat.two_pow_pos e)
  have hlog : 53 + e ≤ units.log2 := by
    rw [Nat.le_log2 (by omega), Nat.pow_add]
    exact h
  exact Nat.pow_dvd_pow 2 (by unfold gridExponent; omega)

/-- Where the spacing widens, a power of two lies between, which is on the wider grid. -/
theorem exists_dvd_between {m n : Nat} (h : gridExponent m < gridExponent n) :
    ∃ g, spacing n ∣ g ∧ m < g ∧ g ≤ n := by
  have hne : n ≠ 0 := by
    rintro rfl
    simp [gridExponent] at h
  have hlog : m.log2 < n.log2 := by unfold gridExponent at h; omega
  refine ⟨2 ^ n.log2, Nat.pow_dvd_pow 2 (by unfold gridExponent; omega), ?_, Nat.log2_self_le hne⟩
  exact Nat.lt_of_lt_of_le Nat.lt_log2_self (Nat.pow_le_pow_right (by decide) hlog)

theorem roundToGrid_eq (num den : Nat) :
    roundToGrid num den =
      roundHalfEven num (den * spacing (num / den)) * spacing (num / den) := rfl

/-! ## Rounding to the grid -/

theorem roundToGrid_error (num den : Nat) (hden : 0 < den) :
    2 * num ≤ 2 * (roundToGrid num den * den) + den * spacing (num / den) ∧
      2 * (roundToGrid num den * den) ≤ 2 * num + den * spacing (num / den) := by
  have herror := roundHalfEven_error num (den * spacing (num / den))
    (Nat.mul_pos hden (spacing_pos _))
  have hproduct : roundToGrid num den * den =
      roundHalfEven num (den * spacing (num / den)) * (den * spacing (num / den)) := by
    rw [roundToGrid_eq]; ring
  rwa [hproduct]

/-- The rounding of a ratio does not pass a grid point above it. -/
theorem roundToGrid_le {num den g : Nat} (hden : 0 < den) (hg : OnGrid g) (h : num ≤ g * den) :
    roundToGrid num den ≤ g := by
  have hfloor : num / den ≤ g := Nat.div_le_of_le_mul (by rwa [Nat.mul_comm] at h)
  obtain ⟨c, hc⟩ := Nat.dvd_trans (spacing_dvd_spacing hfloor) (onGrid_iff.1 hg)
  have hle : num ≤ c * (den * spacing (num / den)) := by
    calc num ≤ g * den := h
      _ = c * (den * spacing (num / den)) := by rw [hc]; ring
  rw [roundToGrid_eq]
  calc roundHalfEven num (den * spacing (num / den)) * spacing (num / den)
      ≤ c * spacing (num / den) := Nat.mul_le_mul_right _
        (roundHalfEven_le_of_le_mul (Nat.mul_pos hden (spacing_pos _)) hle)
    _ = g := by rw [hc, Nat.mul_comm]

theorem le_roundToGrid_of_dvd {num den g : Nat} (hden : 0 < den)
    (hdvd : spacing (num / den) ∣ g) (h : g * den ≤ num) : g ≤ roundToGrid num den := by
  obtain ⟨c, hc⟩ := hdvd
  have hle : c * (den * spacing (num / den)) ≤ num := by
    calc c * (den * spacing (num / den)) = g * den := by rw [hc]; ring
      _ ≤ num := h
  rw [roundToGrid_eq]
  calc g = c * spacing (num / den) := by rw [hc, Nat.mul_comm]
    _ ≤ roundHalfEven num (den * spacing (num / den)) * spacing (num / den) :=
      Nat.mul_le_mul_right _ (le_roundHalfEven_of_mul_le (Nat.mul_pos hden (spacing_pos _)) hle)

/-- The rounding of a ratio does not pass a grid point below it. -/
theorem le_roundToGrid {num den g : Nat} (hden : 0 < den) (hg : OnGrid g) (h : g * den ≤ num) :
    g ≤ roundToGrid num den := by
  have hfloor : g ≤ num / den := (Nat.le_div_iff_mul_le hden).2 h
  rcases Nat.eq_or_lt_of_le (gridExponent_mono hfloor) with hsame | hfiner
  · refine le_roundToGrid_of_dvd hden ?_ h
    rw [spacing, ← hsame]
    exact hg
  · obtain ⟨between, hdvd, hlower, hupper⟩ := exists_dvd_between hfiner
    exact Nat.le_trans (Nat.le_of_lt hlower)
      (le_roundToGrid_of_dvd hden hdvd ((Nat.le_div_iff_mul_le hden).1 hupper))

/-- **A larger ratio is not rounded to a smaller number.** -/
theorem roundToGrid_mono {num num' den den' : Nat} (hden : 0 < den) (hden' : 0 < den')
    (h : num * den' ≤ num' * den) : roundToGrid num den ≤ roundToGrid num' den' := by
  have hfloor : num / den ≤ num' / den' := by
    rw [Nat.le_div_iff_mul_le hden']
    refine Nat.le_of_mul_le_mul_right ?_ hden
    calc num / den * den' * den = num / den * den * den' := by ring
      _ ≤ num * den' := Nat.mul_le_mul_right _ (Nat.div_mul_le_self num den)
      _ ≤ num' * den := h
  rcases Nat.eq_or_lt_of_le (gridExponent_mono hfloor) with hsame | hwider
  · rw [roundToGrid_eq, roundToGrid_eq, spacing, spacing, hsame]
    refine Nat.mul_le_mul_right _ (roundHalfEven_mono ?_ ?_ ?_)
    · exact Nat.mul_pos hden (Nat.two_pow_pos _)
    · exact Nat.mul_pos hden' (Nat.two_pow_pos _)
    · calc num * (den' * 2 ^ gridExponent (num' / den'))
          = num * den' * 2 ^ gridExponent (num' / den') := (Nat.mul_assoc _ _ _).symm
        _ ≤ num' * den * 2 ^ gridExponent (num' / den') := Nat.mul_le_mul_right _ h
        _ = num' * (den * 2 ^ gridExponent (num' / den')) := Nat.mul_assoc _ _ _
  · obtain ⟨between, hdvd, hlower, hupper⟩ := exists_dvd_between hwider
    have hgrid : OnGrid between := onGrid_iff.2 (Nat.dvd_trans (spacing_dvd_spacing hupper) hdvd)
    calc roundToGrid num den ≤ between :=
          roundToGrid_le hden hgrid (Nat.le_of_lt ((Nat.div_lt_iff_lt_mul hden).1 hlower))
      _ ≤ roundToGrid num' den' :=
          le_roundToGrid_of_dvd hden' hdvd ((Nat.le_div_iff_mul_le hden').1 hupper)

theorem roundToGrid_mul_right (num den : Nat) {c : Nat} (hc : 0 < c) :
    roundToGrid (num * c) (den * c) = roundToGrid num den := by
  have hden : den * c * spacing (num / den) = den * spacing (num / den) * c := by ring
  rw [roundToGrid_eq, roundToGrid_eq, Nat.mul_div_mul_right num den hc, hden,
    roundHalfEven_mul_right num _ hc]

theorem roundToGrid_one {n : Nat} (h : OnGrid n) : roundToGrid n 1 = n := by
  simpa using roundToGrid_mul h (show 0 < 1 by decide)

/-- The quotient of a grid number is rounded by less than the spacing of the number itself. -/
theorem den_mul_spacing_lt {num den : Nat} (hnormal : 2 ^ 52 ≤ num / den) :
    den * spacing (num / den) < 2 * spacing num := by
  have hle : den * spacing (num / den) * 2 ^ 52 ≤ num := by
    calc den * spacing (num / den) * 2 ^ 52 = den * (spacing (num / den) * 2 ^ 52) := by ring
      _ ≤ den * (num / den) := Nat.mul_le_mul_left _ (spacing_mul_le hnormal)
      _ ≤ num := Nat.mul_div_le num den
  have hlt := lt_spacing_mul num
  omega

/-- Distinct multiples of one spacing are a spacing apart. -/
theorem add_le_of_dvd_of_lt {s m n : Nat} (hm : s ∣ m) (hn : s ∣ n) (h : m < n) : m + s ≤ n := by
  obtain ⟨a, rfl⟩ := hm
  obtain ⟨b, rfl⟩ := hn
  have hab : a + 1 ≤ b := Nat.lt_of_mul_lt_mul_left h
  calc s * a + s = s * (a + 1) := by ring
    _ ≤ s * b := Nat.mul_le_mul_left _ hab

/-- **A number on the grid does not round up to a number it is below**, if its own spacing divides
the product with the divisor: the product lies a whole spacing above it, and the rounding of the
quotient moves it by less. -/
theorem roundToGrid_lt {num den g : Nat} (hden : 0 < den) (hnum : OnGrid num)
    (hnormal : 2 ^ 52 ≤ num / den) (hdvd : spacing num ∣ g * den) (h : num < g * den) :
    roundToGrid num den < g := by
  obtain ⟨-, herror⟩ := roundToGrid_error num den hden
  have hgap := add_le_of_dvd_of_lt (onGrid_iff.1 hnum) hdvd h
  have hmove := den_mul_spacing_lt hnormal
  have hproduct : roundToGrid num den * den < g * den := by omega
  exact Nat.lt_of_mul_lt_mul_right hproduct

/-- **Nor does it round down to a number it is above.** -/
theorem lt_roundToGrid {num den g : Nat} (hden : 0 < den) (hnum : OnGrid num)
    (hnormal : 2 ^ 52 ≤ num / den) (hdvd : spacing num ∣ g * den) (h : g * den < num) :
    g < roundToGrid num den := by
  obtain ⟨herror, -⟩ := roundToGrid_error num den hden
  have hgap := add_le_of_dvd_of_lt hdvd (onGrid_iff.1 hnum) h
  have hmove := den_mul_spacing_lt hnormal
  have hproduct : g * den < roundToGrid num den * den := by omega
  exact Nat.lt_of_mul_lt_mul_right hproduct

end NetTimeline
