import Mathlib.Algebra.Order.Ring.Rat
import Mathlib.Data.List.TakeWhile
import Mathlib.Tactic.Linarith
import NetTimeline.Number.Layout
import NetTimeline.Proofs.Number.Range
import NetTimeline.Proofs.Text.Words

/-!
# The value of a decimal

A decimal stands for the number `coefficient * 10 ^ exponent`, and its nearest binary64 value
depends on that alone: zeros at the end of the coefficient may as well be counted in the exponent. A
numeral can therefore be read from its significant digits and the place of its point, which is what
a layout writes.

Principal results:

* `Decimal.toBinary64_eq_ofRatio` — the bounds on the exponent only save computation;
* `Decimal.toBinary64_congr` — decimals of one value have the same nearest value;
* `Layout.significant_cases` — the significant digits of a decimal, with the place of the point,
  make up its value.
-/

set_option autoImplicit false

namespace NetTimeline

/-! ## Ratios -/

/-- A ratio of less than half a unit is rounded to zero. -/
theorem roundToGrid_eq_zero {num den : Nat} (h : 2 * num < den) : roundToGrid num den = 0 := by
  have hquotient : num / den = 0 := Nat.div_eq_of_lt (by omega)
  have hspacing : spacing 0 = 1 := by decide
  have hremainder : num % den = num := Nat.mod_eq_of_lt (by omega)
  have hround : roundHalfEven num den = 0 := by
    simp [roundHalfEven, hquotient, hremainder, h]
  rw [roundToGrid_eq, hquotient, hspacing, Nat.mul_one, Nat.mul_one, hround]

theorem Magnitude.ofRatio?_congr {num den num' den' : Nat}
    (h : roundToGrid num den = roundToGrid num' den') : ofRatio? num den = ofRatio? num' den' := by
  simp only [ofRatio?, h]

theorem Magnitude.eq_zero {m : Magnitude} (h : m.units = 0) : m = .zero := by
  cases m
  cases h
  rfl

namespace Binary64

variable {negative : Bool} {num den : Nat}

theorem ofRatio_eq_zero (h : 2 * num < den) :
    ofRatio negative num den = .finite ⟨negative, .zero⟩ := by
  have hround := roundToGrid_eq_zero h
  have hbound : roundToGrid num den < unitsLimit := hround.trans_lt unitsLimit_pos
  obtain ⟨x, hx, hsign, hunits⟩ := exists_ofRatio negative hbound
  have hzero : x.magnitude = .zero := Magnitude.eq_zero (hunits.trans hround)
  rw [hx, ← hsign, ← hzero]

theorem ofRatio_mul_right (num den : Nat) {c : Nat} (hc : 0 < c) :
    ofRatio negative (num * c) (den * c) = ofRatio negative num den := by
  have h := Magnitude.ofRatio?_congr (roundToGrid_mul_right num den hc)
  unfold ofRatio
  rw [h]

/-- Equal ratios have the same nearest value. -/
theorem ofRatio_congr {num' den' : Nat} (hden : 0 < den) (hden' : 0 < den')
    (h : num * den' = num' * den) : ofRatio negative num den = ofRatio negative num' den' :=
  calc ofRatio negative num den = ofRatio negative (num * den') (den * den') :=
        (ofRatio_mul_right num den hden').symm
    _ = ofRatio negative (num' * den) (den' * den) := by rw [h, Nat.mul_comm den den']
    _ = ofRatio negative num' den' := ofRatio_mul_right num' den' hden

/-- The sign of a finite value is the one that is handed in. -/
theorem ofRatio_sign {sign other : Bool} {m : Magnitude}
    (h : ofRatio sign num den = .finite ⟨other, m⟩) :
    ofRatio negative num den = .finite ⟨negative, m⟩ := by
  unfold ofRatio at *
  split at h
  · rename_i size hsize
    cases h
    rfl
  · cases h

end Binary64

/-! ## Decimals -/

/-- The number that a decimal stands for. -/
def Decimal.value (d : Decimal) : ℚ :=
  (if d.negative then -1 else 1) * d.coefficient * (10 : ℚ) ^ d.exponent

namespace Decimal

theorem pow_pow_le_pow {n k e : Nat} (h : n * k ≤ e) : (10 ^ n) ^ k ≤ 10 ^ e := by
  rw [← Nat.pow_mul]
  exact Nat.pow_le_pow_right (by decide) h

/-- From `10 ^ 400` on nothing is near a finite value. -/
theorem wholeBound_le_of_large {c : Nat} {e : Int} (hc : c ≠ 0) (he : 400 < e) :
    wholeBound * unitsPerOne * 1 ≤ c * 10 ^ e.toNat * unitsPerOne := by
  have hbound : wholeBound ≤ c * 10 ^ e.toNat :=
    calc wholeBound ≤ (10 ^ 100) ^ 4 := by decide +kernel
      _ ≤ 10 ^ e.toNat := pow_pow_le_pow (by omega)
      _ ≤ c * 10 ^ e.toNat := Nat.le_mul_of_pos_left _ (by omega)
  rw [Nat.mul_one]
  exact Nat.mul_le_mul_right _ hbound

/-- Below `10 ^ -400` the nearest value is zero. -/
theorem lt_of_small {c : Nat} {e : Int} (he : e + c.log2 < -400) :
    2 * (c * unitsPerOne) < 10 ^ (-e).toNat := by
  have hunits : 2 * (2 * unitsPerOne) ≤ (10 ^ 100) ^ 4 := by decide +kernel
  have hdigits : c < 2 ^ c.log2 * 2 := by
    rw [← Nat.pow_succ]
    exact Nat.lt_log2_self
  have hpow : 2 ^ c.log2 ≤ 10 ^ c.log2 := Nat.pow_le_pow_left (by decide) _
  have hexponent : 100 * 4 ≤ (-e).toNat - c.log2 := by omega
  calc 2 * (c * unitsPerOne) < 2 * (2 ^ c.log2 * 2 * unitsPerOne) := by
        have := Nat.mul_lt_mul_of_pos_right hdigits unitsPerOne_pos
        omega
    _ = 2 * (2 * unitsPerOne) * 2 ^ c.log2 := by ring
    _ ≤ 10 ^ ((-e).toNat - c.log2) * 10 ^ c.log2 :=
        Nat.mul_le_mul (hunits.trans (pow_pow_le_pow hexponent)) hpow
    _ = 10 ^ (-e).toNat := Nat.pow_sub_mul_pow 10 (by omega)

/-- **The bounds on the exponent only save computation.** -/
theorem toBinary64_eq_ofRatio (d : Decimal) :
    d.toBinary64 = .ofRatio d.negative (d.coefficient * 10 ^ d.exponent.toNat * unitsPerOne)
      (10 ^ (-d.exponent).toNat) := by
  obtain ⟨negative, c, e⟩ := d
  have hden : 0 < 10 ^ (-e).toNat := Nat.pow_pos (by decide)
  unfold toBinary64
  dsimp only
  -- The two bounds on the exponent decide early what the rounding would come to anyway.
  split
  · rename_i hzero
    subst hzero
    exact (Binary64.ofRatio_eq_zero (by omega)).symm
  rename_i hc
  split
  · rename_i hlarge
    have hone : (-e).toNat = 0 := by omega
    rw [hone, Nat.pow_zero]
    exact ((Binary64.ofRatio_infinite_iff (by decide)).2 (wholeBound_le_of_large hc hlarge)).symm
  split
  · rename_i hsmall
    have hone : e.toNat = 0 := by omega
    rw [hone, Nat.pow_zero, Nat.mul_one]
    exact (Binary64.ofRatio_eq_zero (lt_of_small hsmall)).symm
  split
  · rename_i hpositive
    have hone : (-e).toNat = 0 := by omega
    rw [hone, Nat.pow_zero, Nat.pow_eq]
  · rename_i hnegative
    have hone : e.toNat = 0 := by omega
    rw [hone, Nat.pow_zero, Nat.mul_one, Nat.pow_eq]

/-- The value as a quotient of whole numbers. -/
theorem value_eq_div (d : Decimal) :
    d.value = (if d.negative then -1 else 1) *
      ((d.coefficient * 10 ^ d.exponent.toNat : Nat) / (10 ^ (-d.exponent).toNat : Nat)) := by
  have hpow : (10 : ℚ) ^ d.exponent = 10 ^ d.exponent.toNat / 10 ^ (-d.exponent).toNat := by
    rw [← zpow_natCast, ← zpow_natCast, ← zpow_sub₀ (by norm_num)]
    congr 1
    omega
  rw [value, hpow]
  push_cast
  ring

/-- **Decimals of one value have the same nearest value**, with the same sign. -/
theorem toBinary64_congr {d d' : Decimal} (hsign : d.negative = d'.negative)
    (hvalue : d.value = d'.value) : d.toBinary64 = d'.toBinary64 := by
  have hne : (if d'.negative then (-1 : ℚ) else 1) ≠ 0 := by split <;> norm_num
  have hpow (n : Nat) : ((10 ^ n : Nat) : ℚ) ≠ 0 := by positivity
  rw [value_eq_div, value_eq_div, hsign, mul_right_inj' hne, div_eq_div_iff (hpow _) (hpow _)]
    at hvalue
  have hcross : d.coefficient * 10 ^ d.exponent.toNat * 10 ^ (-d'.exponent).toNat =
      d'.coefficient * 10 ^ d'.exponent.toNat * 10 ^ (-d.exponent).toNat := by
    exact_mod_cast hvalue
  rw [toBinary64_eq_ofRatio, toBinary64_eq_ofRatio, hsign]
  refine Binary64.ofRatio_congr (Nat.pow_pos (by decide)) (Nat.pow_pos (by decide)) ?_
  rw [Nat.mul_right_comm, hcross, Nat.mul_right_comm]

/-- A zero at the end of the coefficient may as well be counted in the exponent. -/
theorem value_mul_pow (negative : Bool) (c k : Nat) (e : Int) :
    (⟨negative, c * 10 ^ k, e⟩ : Decimal).value = (⟨negative, c, e + k⟩ : Decimal).value := by
  rw [value, value, zpow_add₀ (by norm_num), zpow_natCast]
  push_cast
  ring

/-- The nearest value of a decimal with another sign. -/
theorem toBinary64_sign {d : Decimal} {sign : Bool} {m : Magnitude} (negative : Bool)
    (h : d.toBinary64 = .finite ⟨sign, m⟩) :
    ({ d with negative := negative } : Decimal).toBinary64 = .finite ⟨negative, m⟩ := by
  rw [toBinary64_eq_ofRatio] at h ⊢
  exact Binary64.ofRatio_sign h

end Decimal

/-! ## Digits -/

theorem digitsValue_append_eq (front back : List Char) :
    digitsValue (front ++ back) = digitsValue front * 10 ^ back.length + digitsValue back := by
  rw [digitsValue, Nat.ofDigitChars_append, Nat.ofDigitChars_eq_ofDigitChars_zero, Nat.mul_comm]
  rfl

theorem digitsValue_replicate_zero (k : Nat) : digitsValue (List.replicate k '0') = 0 := by
  simp [digitsValue, Nat.ofDigitChars_replicate_zero]

theorem digitsValue_append_zeros (ds : List Char) (k : Nat) :
    digitsValue (ds ++ List.replicate k '0') = digitsValue ds * 10 ^ k := by
  rw [digitsValue_append_eq, digitsValue_replicate_zero, List.length_replicate, Nat.add_zero]

theorem digitsValue_padZeros (width : Nat) (ds : List Char) :
    digitsValue (Text.padZeros width ds) = digitsValue ds := by
  rw [Text.padZeros, digitsValue_append_eq, digitsValue_replicate_zero, Nat.zero_mul, Nat.zero_add]

/-- All characters are digits. -/
def AllDigits (ds : List Char) : Prop := ∀ c ∈ ds, c.isDigit = true

namespace AllDigits

theorem append {front back : List Char} (hfront : AllDigits front) (hback : AllDigits back) :
    AllDigits (front ++ back) := by
  intro c hc
  rcases List.mem_append.1 hc with h | h
  · exact hfront c h
  · exact hback c h

theorem zeros (k : Nat) : AllDigits (List.replicate k '0') := by
  intro c hc
  rw [List.eq_of_mem_replicate hc]
  decide

theorem of_subset {ds others : List Char} (h : AllDigits ds) (hsub : others ⊆ ds) :
    AllDigits others := fun c hc => h c (hsub hc)

theorem toDigits (n : Nat) : AllDigits (Nat.toDigits 10 n) := fun _ hc =>
  Nat.isDigit_of_mem_toDigits (by decide) (by decide) hc

theorem padZeros {ds : List Char} (width : Nat) (h : AllDigits ds) :
    AllDigits (Text.padZeros width ds) := (zeros _).append h

theorem isWordChar {ds : List Char} (h : AllDigits ds) : ∀ c ∈ ds, Text.IsWordChar c := by
  intro c hc
  have hdigit : c.isDigit = true := h c hc
  refine ⟨?_, ?_, ?_⟩ <;>
    · rintro rfl
      cases hdigit

theorem isWord {ds : List Char} (h : AllDigits ds) (hne : ds ≠ []) : Text.IsWord ds :=
  ⟨hne, h.isWordChar⟩

end AllDigits

/-- The text does not go on with a digit. -/
def NoDigitAhead (rest : List Char) : Prop := ∀ c ∈ rest.head?, c.isDigit = false

theorem spanDigits_eq {ds rest : List Char} (hds : AllDigits ds) (hrest : NoDigitAhead rest) :
    spanDigits (ds ++ rest) = (ds, rest) := by
  have hstop : rest.takeWhile Char.isDigit = [] ∧ rest.dropWhile Char.isDigit = rest := by
    cases rest with
    | nil => exact ⟨rfl, rfl⟩
    | cons c cs =>
      have hc : c.isDigit = false := hrest c rfl
      simp [hc]
  rw [spanDigits, List.takeWhile_append_of_pos hds, List.dropWhile_append_of_pos hds, hstop.1,
    hstop.2, List.append_nil]

theorem spanDigits_self {ds : List Char} (hds : AllDigits ds) : spanDigits ds = (ds, []) := by
  have hall : spanDigits (ds ++ []) = (ds, []) := spanDigits_eq hds (by intro c hc; cases hc)
  rwa [List.append_nil] at hall

section Reading

variable {whole fraction : List Char}

theorem readDecimal?_whole (hdigits : AllDigits whole) (hne : whole ≠ []) :
    readDecimal? false whole = some ⟨false, digitsValue whole, 0⟩ := by
  simp [readDecimal?, spanDigits_self hdigits, spanFraction, hne, readExponent?]

theorem readDecimal?_point (hwhole : AllDigits whole) (hne : whole ≠ [])
    (hfraction : AllDigits fraction) :
    readDecimal? false (whole ++ '.' :: fraction) =
      some ⟨false, digitsValue (whole ++ fraction), -fraction.length⟩ := by
  have hspan : spanDigits (whole ++ '.' :: fraction) = (whole, '.' :: fraction) :=
    spanDigits_eq hwhole (by intro c hc; cases hc; decide)
  simp [readDecimal?, hspan, spanFraction, spanDigits_self hfraction, hne, readExponent?]

end Reading

/-- The numeral of a positive number does not start with a zero. -/
theorem head?_toDigits_ne_zero {n : Nat} (hn : 0 < n) : (Nat.toDigits 10 n).head? ≠ some '0' := by
  induction n using Nat.strongRecOn with
  | ind n ih =>
    rw [Nat.toDigits_eq_if (by decide)]
    split
    · rename_i hsmall
      have hdigits : ∀ d : Nat, d < 10 → 0 < d → d.digitChar ≠ '0' := by decide
      simpa using hdigits n hsmall hn
    · rename_i hlarge
      have hquotient : 0 < n / 10 := Nat.div_pos (by omega) (by decide)
      rw [List.head?_append_of_ne_nil _ Nat.toDigits_ne_nil]
      exact ih (n / 10) (by omega) hquotient

/-- The digits without the zeros at their end, and as many zeros as were left out. -/
theorem exists_eq_append_zeros (ds : List Char) :
    ∃ k, ds = (ds.reverse.dropWhile (· == '0')).reverse ++ List.replicate k '0' := by
  refine ⟨(ds.reverse.takeWhile (· == '0')).length, ?_⟩
  have hzeros : ds.reverse.takeWhile (· == '0') =
      List.replicate (ds.reverse.takeWhile (· == '0')).length '0' := by
    refine List.eq_replicate_of_mem fun c hc => ?_
    simpa using List.mem_takeWhile_imp hc
  have hwhole := congrArg List.reverse (List.takeWhile_append_dropWhile (p := (· == '0'))
    (l := ds.reverse))
  rw [List.reverse_append, List.reverse_reverse] at hwhole
  rw [hzeros, List.reverse_replicate] at hwhole
  simpa using hwhole.symm

namespace Layout

/-- What the significant digits of a decimal and the place of its point have to satisfy: a zero at
the front is the only digit. -/
structure Significant (ds : List Char) (point : Int) : Prop where
  digits : AllDigits ds
  ne_nil : ds ≠ []
  zero : ds.head? = some '0' → ds = ['0'] ∧ point = 1

namespace Significant

variable {ds : List Char} {point : Int}

theorem zeros : Significant ['0'] 1 := ⟨AllDigits.zeros 1, by simp, fun _ => ⟨rfl, rfl⟩⟩

theorem length_pos (h : Significant ds point) : 0 < ds.length := List.length_pos_of_ne_nil h.ne_nil

end Significant

/-- **The significant digits of a decimal, with the place of the point, make up its value.** -/
theorem significant_cases (d : Decimal) :
    ∃ ds point, significant d = (ds, point) ∧ Significant ds point ∧
      d.value = (⟨d.negative, digitsValue ds, point - ds.length⟩ : Decimal).value := by
  obtain ⟨negative, c, e⟩ := d
  rcases Nat.eq_zero_or_pos c with rfl | hc
  · refine ⟨['0'], 1, rfl, Significant.zeros, ?_⟩
    simp [Decimal.value, digitsValue, Nat.ofDigitChars]
  obtain ⟨k, hk⟩ := exists_eq_append_zeros (Nat.toDigits 10 c)
  generalize hds : ((Nat.toDigits 10 c).reverse.dropWhile (· == '0')).reverse = ds at hk
  have hvalue : c = digitsValue ds * 10 ^ k := by
    rw [← digitsValue_append_zeros, ← hk, digitsValue_toDigits]
  have hne : ds ≠ [] := by
    rintro rfl
    simp [digitsValue, Nat.ofDigitChars] at hvalue
    omega
  have hlength : (Nat.toDigits 10 c).length = ds.length + k := by
    rw [hk, List.length_append, List.length_replicate]
  have hdigits : AllDigits ds := (AllDigits.toDigits c).of_subset (by
    rw [hk]
    exact List.subset_append_left _ _)
  have hhead : ds.head? ≠ some '0' := by
    have hfirst := head?_toDigits_ne_zero hc
    rwa [hk, List.head?_append_of_ne_nil _ hne] at hfirst
  refine ⟨ds, (Nat.toDigits 10 c).length + e, ?_, ⟨hdigits, hne, fun h => absurd h hhead⟩, ?_⟩
  · simp [significant, Nat.ne_of_gt hc, hds]
  · have hexponent : ((Nat.toDigits 10 c).length : Int) + e - ds.length = e + k := by omega
    rw [hexponent, ← Decimal.value_mul_pow, ← hvalue]

end Layout

end NetTimeline
