import Mathlib.Algebra.Order.Ring.Abs
import Mathlib.Data.Nat.Cast.Order.Field
import NetTimeline.Proofs.Json.Number

/-!
# Numbers of six significant digits

A number in a table is rounded to six significant digits, and then written in front of a point,
around one, or with an exponent. Of each of these texts the rounded number is read back, and it is
off by half of its sixth digit at most. The first of the six digits is not a zero, so that is no
more than five millionths of the number itself.

Principal results:

* `Json.Numeral.readDecimal?_unsigned` — a numeral is read as its decimal;
* `Magnitude.roundTo_error`, `Magnitude.pow_point_le` — how far the rounding goes, and where the
  first digit stands: together `Magnitude.sixDigits_error`;
* `Finite64.exists_tableNumeral` — what a number in a table is made of, and what is read from it.
-/

set_option autoImplicit false

namespace NetTimeline

/-! ## Numerals -/

namespace Json.Numeral

variable (n : Numeral)

theorem isWordChar_fractionText : ∀ c ∈ n.fractionText, Text.IsWordChar c := by
  unfold fractionText
  split
  · exact fun c hc => absurd hc List.not_mem_nil
  · exact List.forall_mem_cons.2 ⟨by decide, n.fraction_digits.isWordChar⟩

theorem isWordChar_exponentText : ∀ c ∈ n.exponentText, Text.IsWordChar c := by
  unfold exponentText
  split
  · exact fun c hc => absurd hc List.not_mem_nil
  · rename_i negative digits h
    have hsign : Text.IsWordChar (if negative then '-' else '+') := by cases negative <;> decide
    exact List.forall_mem_cons.2 ⟨by decide,
      List.forall_mem_cons.2 ⟨hsign, (n.exponent_digits _ h).1.isWordChar⟩⟩

/-- A numeral is a word. -/
theorem isWord_text : Text.IsWord n.text := by
  have hunsigned : ∀ c ∈ n.unsigned, Text.IsWordChar c :=
    List.forall_mem_append.2 ⟨List.forall_mem_append.2
      ⟨n.whole_digits.isWordChar, n.isWordChar_fractionText⟩, n.isWordChar_exponentText⟩
  obtain ⟨c, cs, hcons, -⟩ := n.text_eq_cons
  refine ⟨by simp [hcons], ?_⟩
  unfold text
  split
  · exact List.forall_mem_cons.2 ⟨by decide, hunsigned⟩
  · exact hunsigned

theorem readExponent?_text : readExponent? n.exponentText = some n.exponentValue := by
  unfold exponentText exponentValue
  cases h : n.exponent with
  | none => rfl
  | some e =>
    obtain ⟨negative, digits⟩ := e
    obtain ⟨hdigits, hne⟩ := n.exponent_digits _ h
    have hall : digits.all Char.isDigit = true := List.all_eq_true.2 hdigits
    cases negative <;> simp [readExponent?, spanSign, hne, hall]

/-- **A numeral is read as its decimal.** -/
theorem readDecimal?_unsigned : readDecimal? n.negative n.unsigned = some n.decimal := by
  have hwhole : spanDigits n.unsigned = (n.whole, n.fractionText ++ n.exponentText) := by
    have hahead := n.head?_fractionText Ends.nil
    rw [List.append_nil] at hahead
    rw [unsigned, List.append_assoc]
    exact spanDigits_eq n.whole_digits hahead
  have hfraction : spanFraction (n.fractionText ++ n.exponentText) =
      (n.fraction, n.exponentText) := by
    have hahead := n.head?_exponentText Ends.nil
    rw [List.append_nil] at hahead
    unfold fractionText
    split
    · rename_i hnil
      rw [hnil, List.nil_append]
      unfold spanFraction
      split
      · rename_i hpoint
        exact absurd rfl (hahead '.' (by rw [hpoint]; rfl)).2
      · rfl
    · exact spanDigits_eq n.fraction_digits fun c hc => (hahead c hc).1
  unfold readDecimal?
  simp only [hwhole, hfraction, n.whole_ne_nil, false_and, if_false, n.readExponent?_text,
    Option.map_some]
  rfl

theorem readDecimal?_text (h : n.negative = false) :
    readDecimal? false n.text = some n.decimal := by
  have hunsigned := n.readDecimal?_unsigned
  unfold text
  rwa [h] at hunsigned ⊢

end Json.Numeral

/-! ## Rounding to so many digits -/

/-- The number that a magnitude stands for. -/
def Magnitude.value (m : Magnitude) : ℚ := m.units / unitsPerOne

/-- The number that a finite value stands for. -/
def Finite64.value (x : Finite64) : ℚ := x.units / unitsPerOne

theorem Finite64.value_of_positive {x : Finite64} (h : x.negative = false) :
    x.value = x.magnitude.value := by
  rw [Finite64.value, Finite64.units, h, if_neg Bool.false_ne_true, Int.cast_natCast,
    Magnitude.value]

theorem abs_roundHalfEven_sub_le (num : Nat) {den : Nat} (hden : 0 < den) :
    |(roundHalfEven num den : ℚ) - num / den| ≤ 1 / 2 := by
  obtain ⟨hlower, hupper⟩ := roundHalfEven_error num den hden
  have hpos : (0 : ℚ) < den := Nat.cast_pos.2 hden
  have hlower : (2 * num : ℚ) ≤ 2 * (roundHalfEven num den * den) + den := by exact_mod_cast hlower
  have hupper : (2 * (roundHalfEven num den * den) : ℚ) ≤ 2 * num + den := by exact_mod_cast hupper
  rw [abs_le, neg_le_sub_iff_le_add, sub_le_iff_le_add, div_le_iff₀ hpos]
  constructor
  · linarith
  · rw [← sub_le_iff_le_add', le_div_iff₀ hpos]
    linarith

/-- A number has its first digit. -/
theorem pow_decimalLength_le {n : Nat} (hn : 0 < n) : 10 ^ (decimalLength n - 1) ≤ n := by
  by_contra hlt
  rcases Nat.eq_zero_or_pos (decimalLength n - 1) with hone | hmore
  · rw [hone] at hlt
    omega
  · have hfew := decimalLength_le hmore (Nat.not_le.1 hlt)
    omega

namespace Magnitude

variable (m : Magnitude) (exponent : Int)

theorem scaled_value : 0 < (m.scaled exponent).2 ∧
    ((m.scaled exponent).1 : ℚ) / (m.scaled exponent).2 = m.value / 10 ^ exponent := by
  have hunits := unitsPerOne_pos
  unfold scaled value
  split
  · rename_i hexponent
    refine ⟨Nat.mul_pos hunits (Nat.pow_pos (by decide)), ?_⟩
    obtain ⟨k, rfl⟩ := Int.eq_ofNat_of_zero_le hexponent
    rw [div_div, zpow_natCast, Int.toNat_natCast, Nat.pow_eq]
    push_cast
    rfl
  · rename_i hexponent
    refine ⟨hunits, ?_⟩
    obtain ⟨k, hk⟩ := Int.eq_ofNat_of_zero_le (by omega : 0 ≤ -exponent)
    have hneg : exponent = -(k : Int) := by omega
    rw [hneg, zpow_neg, zpow_natCast, div_inv_eq_mul, neg_neg, Int.toNat_natCast, Nat.pow_eq]
    push_cast
    ring

theorem negative_roundTo : (m.roundTo exponent).negative = false := rfl

/-- The rounded number is off by half of its last digit at most. -/
theorem roundTo_error : |(m.roundTo exponent).value - m.value| ≤ 10 ^ exponent / 2 := by
  obtain ⟨hden, hscaled⟩ := m.scaled_value exponent
  have hpow : (0 : ℚ) < 10 ^ exponent := zpow_pos (by norm_num) _
  have hrounded : (m.roundTo exponent).value =
      roundHalfEven (m.scaled exponent).1 (m.scaled exponent).2 * 10 ^ exponent := by
    simp [roundTo, Decimal.value]
  have hexact : m.value =
      (m.scaled exponent).1 / (m.scaled exponent).2 * 10 ^ exponent := by
    rw [hscaled, div_mul_cancel₀ _ hpow.ne']
  rw [hrounded, hexact, ← sub_mul, abs_mul, abs_of_pos hpow]
  have herror := abs_roundHalfEven_sub_le (m.scaled exponent).1 hden
  calc _ ≤ 1 / 2 * (10 : ℚ) ^ exponent := mul_le_mul_of_nonneg_right herror hpow.le
    _ = 10 ^ exponent / 2 := by ring

theorem roundTo_of_zero (h : m.units = 0) : (m.roundTo exponent).value = 0 := by
  have hnum : (m.scaled exponent).1 = 0 := by
    unfold scaled
    split <;> simp [h]
  simp [roundTo, Decimal.value, hnum, roundHalfEven]

/-- The whole part of a lifted magnitude tells where its first digit stands. -/
theorem pow_lifted_le (lift : Nat) (h : 0 < m.units * Nat.pow 10 lift / unitsPerOne) :
    (10 : ℚ) ^ ((decimalLength (m.units * Nat.pow 10 lift / unitsPerOne) : Int) - lift - 1) ≤
      m.value := by
  rw [Nat.pow_eq] at h ⊢
  generalize hwhole : m.units * 10 ^ lift / unitsPerOne = whole at h ⊢
  have hdigits : 0 < decimalLength whole := List.length_pos_of_ne_nil Nat.toDigits_ne_nil
  have hpoint : (decimalLength whole : Int) - lift - 1 =
      ((decimalLength whole - 1 : Nat) : Int) - lift := by
    omega
  rw [hpoint, zpow_sub₀ (by norm_num), zpow_natCast, zpow_natCast, div_le_iff₀ (by positivity)]
  calc (10 : ℚ) ^ (decimalLength whole - 1) ≤ whole := by
        exact_mod_cast pow_decimalLength_le h
    _ ≤ ((m.units * 10 ^ lift : Nat) : ℚ) / unitsPerOne := by
        rw [← hwhole]
        exact Nat.cast_div_le
    _ = m.value * 10 ^ lift := by
        rw [value]
        push_cast
        ring

/-- The first digit stands in front of the point of the magnitude. -/
theorem pow_point_le (h : 0 < m.units) : (10 : ℚ) ^ (m.point - 1) ≤ m.value := by
  have hsmall : unitsPerOne ≤ Nat.pow 10 330 := by decide +kernel
  have hwhole : 0 < m.units * Nat.pow 10 330 / unitsPerOne :=
    Nat.div_pos (hsmall.trans (Nat.le_mul_of_pos_left _ h)) unitsPerOne_pos
  have hpow := m.pow_lifted_le _ hwhole
  rwa [Nat.cast_ofNat] at hpow

/-- A magnitude rounded to six significant digits. -/
def sixDigits : Decimal := m.roundTo (m.point - 6)

theorem negative_sixDigits : m.sixDigits.negative = false := m.negative_roundTo _

/-- **Of six digits the error is five millionths at most.** -/
theorem sixDigits_error : |m.sixDigits.value - m.value| ≤ 5 / 10 ^ 6 * m.value := by
  unfold sixDigits
  rcases Nat.eq_zero_or_pos m.units with hzero | hpositive
  · rw [m.roundTo_of_zero _ hzero, value, hzero, Nat.cast_zero, zero_div, mul_zero, sub_zero,
      abs_zero]
  · have hfirst := m.pow_point_le hpositive
    have herror := m.roundTo_error (m.point - 6)
    -- the point is where it is, and not to be computed
    generalize m.point = point at hfirst herror ⊢
    have hsixth : (10 : ℚ) ^ (point - 6) / 2 = 5 / 10 ^ 6 * 10 ^ (point - 1) := by
      rw [show point - 6 = (point - 1) - (5 : Nat) by omega, zpow_sub₀ (by norm_num), zpow_natCast]
      ring
    rw [hsixth] at herror
    exact herror.trans (mul_le_mul_of_nonneg_left hfirst (by norm_num))

end Magnitude

/-! ## Numbers in a table -/

/-- **A finite value is written as a numeral of its sign**, as far beside it as the decimal that is
chosen for its magnitude. -/
theorem Layout.exists_numeral_write (layout : Layout) {choose : Magnitude → Decimal}
    {x : Finite64} {bound : ℚ} (hpositive : (choose x.magnitude).negative = false)
    (hbound : |(choose x.magnitude).value - x.magnitude.value| ≤ bound) :
    ∃ n : Json.Numeral, (layout.write choose (.finite x)).toList = n.text ∧
      n.negative = x.negative ∧ |n.decimal.value - x.value| ≤ bound := by
  obtain ⟨n, hwritten, hsign, hvalue, -⟩ :=
    Json.exists_numeral layout { choose x.magnitude with negative := x.negative }
  refine ⟨n, String.toList_ofList.trans hwritten.symm, hsign, ?_⟩
  rw [hvalue]
  cases hnegative : x.negative with
  | true =>
    have hdecimal : ({ choose x.magnitude with negative := true } : Decimal).value =
        -(choose x.magnitude).value := by
      simp [Decimal.value, hpositive]
    have hfinite : x.value = -x.magnitude.value := by
      simp [Finite64.value, Magnitude.value, Finite64.units, hnegative, neg_div]
    rw [hdecimal, hfinite, neg_sub_neg, abs_sub_comm]
    exact hbound
  | false =>
    have hdecimal : ({ choose x.magnitude with negative := false } : Decimal).value =
        (choose x.magnitude).value := by
      simp [Decimal.value, hpositive]
    rw [hdecimal, Finite64.value_of_positive hnegative]
    exact hbound

theorem Binary64.tableText_eq (x : Binary64) :
    x.tableText = Layout.table.write Magnitude.sixDigits x := rfl

/-- **A number in a table is a numeral of its sign**, five millionths beside it at most. -/
theorem Finite64.exists_tableNumeral (x : Finite64) :
    ∃ n : Json.Numeral, (Binary64.finite x).tableText.toList = n.text ∧
      n.negative = x.negative ∧ |n.decimal.value - x.value| ≤ 5 / 10 ^ 6 * x.magnitude.value := by
  rw [Binary64.tableText_eq]
  exact Layout.table.exists_numeral_write x.magnitude.negative_sixDigits
    x.magnitude.sixDigits_error

end NetTimeline
