import Mathlib.Algebra.Order.Ring.Rat
import Mathlib.Tactic.Linarith
import NetTimeline.Axis.Scale
import NetTimeline.Proofs.Axis.Existence
import NetTimeline.Proofs.Number.Decimal

/-!
# What a label shows

A label in seconds or minutes is rounded twice: the quotient of the offset to a binary64 value, and
that to hundredths. Below `2 ^ 53` the two roundings come to no more than one: the quotient times
its divisor is less than a millisecond away from the offset (`roundToGrid_mul_near`), whereas an
offset between two hundredths is in the middle of them, or a millisecond away from it at least.

Principal results:

* `Scale.hundredths_error` — the hundredths are the nearest ones of the exact quotient;
* `Scale.label_hundredths` — they are what the label is written from;
* `shownValue?_places` — and what is read from it;
* `Scale.label_tells` — form and value of every label, and the order of the values.
-/

set_option autoImplicit false

namespace NetTimeline

/-! ## Reading a label -/

/-- The number that a label shows, read from the characters before its first blank. -/
def shownValue? (label : String) : Option ℚ :=
  (readDecimal? false (label.toList.takeWhile (· ≠ ' '))).map Decimal.value

/-- One or more digits, a point, two digits, a blank and a marker. -/
def HasTwoPlaces (marker label : String) : Prop :=
  ∃ whole fraction, label.toList = whole ++ '.' :: (fraction ++ ' ' :: marker.toList) ∧
    whole ≠ [] ∧ AllDigits whole ∧ fraction.length = 2 ∧ AllDigits fraction

/-- What stands before the first blank is read, if it is a numeral. -/
theorem shownValue?_of_numeral {label : String} {numeral rest : List Char} {d : Decimal}
    (hlabel : label.toList = numeral ++ ' ' :: rest) (hword : Text.IsWord numeral)
    (hread : readDecimal? false numeral = some d) : shownValue? label = some d.value := by
  have hfront : label.toList.takeWhile (· ≠ ' ') = numeral := by
    rw [hlabel, List.takeWhile_append_of_pos fun c hc => decide_eq_true (hword.chars c hc).1]
    simp
  rw [shownValue?, hfront, hread]
  rfl

/-! ## Hundredths -/

/-- A number of hundredths with its two places. -/
def placesText (hundredths : Nat) : String :=
  String.ofList (Nat.toDigits 10 (hundredths / 100) ++
    '.' :: Text.padZeros 2 (Nat.toDigits 10 (hundredths % 100)))

theorem twoPlaces_of_nonneg {y : Finite64} (h : y.negative = false) :
    (Binary64.finite y).twoPlaces =
      placesText (roundHalfEven (y.magnitude.units * 100) unitsPerOne) := by
  simp [Binary64.twoPlaces, placesText, h]

section Places

variable (hundredths : Nat) (marker : String)

/-- The two digits behind the point. -/
theorem length_places : (Text.padZeros 2 (Nat.toDigits 10 (hundredths % 100))).length = 2 := by
  have hfew : decimalLength (hundredths % 100) ≤ 2 :=
    decimalLength_le (by decide) (Nat.mod_lt _ (by decide))
  rw [Text.length_padZeros]
  exact Nat.max_eq_left hfew

theorem toList_places : (placesText hundredths ++ " " ++ marker).toList =
    Nat.toDigits 10 (hundredths / 100) ++
      '.' :: (Text.padZeros 2 (Nat.toDigits 10 (hundredths % 100)) ++ ' ' :: marker.toList) := by
  simp [placesText]

theorem hasTwoPlaces : HasTwoPlaces marker (placesText hundredths ++ " " ++ marker) :=
  ⟨_, _, toList_places hundredths marker, Nat.toDigits_ne_nil, .toDigits _,
    length_places hundredths, .padZeros 2 (.toDigits _)⟩

/-- The two places are a numeral in front of the first blank. -/
theorem exists_places_numeral : ∃ numeral, Text.IsWord numeral ∧
    (placesText hundredths ++ " " ++ marker).toList = numeral ++ ' ' :: marker.toList ∧
    readDecimal? false numeral = some ⟨false, hundredths, -2⟩ := by
  have hwhole := AllDigits.toDigits (hundredths / 100)
  have hplaces := AllDigits.padZeros 2 (.toDigits (hundredths % 100))
  have hdigits : digitsValue (Nat.toDigits 10 (hundredths / 100) ++
      Text.padZeros 2 (Nat.toDigits 10 (hundredths % 100))) = hundredths := by
    rw [digitsValue_append_eq, length_places, digitsValue_padZeros, digitsValue_toDigits,
      digitsValue_toDigits]
    omega
  have hread := readDecimal?_point hwhole Nat.toDigits_ne_nil hplaces
  rw [hdigits, length_places] at hread
  refine ⟨_, ⟨by simp, ?_⟩, ?_, hread⟩
  · exact List.forall_mem_append.2 ⟨hwhole.isWordChar,
      List.forall_mem_cons.2 ⟨by decide, hplaces.isWordChar⟩⟩
  · rw [toList_places, List.append_assoc, List.cons_append]

/-- **What is read from the two places are the hundredths.** -/
theorem shownValue?_places :
    shownValue? (placesText hundredths ++ " " ++ marker) = some ((hundredths : ℚ) / 100) := by
  obtain ⟨numeral, hword, hlabel, hread⟩ := exists_places_numeral hundredths marker
  rw [shownValue?_of_numeral hlabel hword hread]
  norm_num [Decimal.value]
  ring

end Places

/-! ## The labels of a scale -/

namespace Scale

/-- The hundredths of an offset in the scale, rounded as a label rounds them. -/
def hundredths (scale : Scale) (offset : Nat) : Nat :=
  roundHalfEven (roundToGrid (offset * unitsPerOne) scale.milliseconds * 100) unitsPerOne

variable {scale : Scale} {offset larger : Nat}

theorem label_millisecond (h53 : offset < 2 ^ 53) :
    millisecond.label (.int offset) = .ok (intNumeral offset ++ " ms") := by
  have hlength : decimalLength (offset : Int).natAbs ≤ maxIntDigits :=
    Nat.le_trans (decimalLength_le (e := 16) (by decide) (by omega)) (by decide)
  have hmarker : intNumeral offset ++ " " ++ millisecond.marker = intNumeral offset ++ " ms" := by
    rw [String.append_assoc]
    rfl
  rw [← hmarker]
  exact Except.bind_eq_ok.2 ⟨_, rfl, Except.bind_eq_ok.2 ⟨_, if_pos hlength, rfl⟩⟩

theorem shownValue?_intNumeral (n : Nat) : shownValue? (intNumeral n ++ " ms") = some (n : ℚ) := by
  have hdigits := AllDigits.toDigits n
  have hread := readDecimal?_whole hdigits Nat.toDigits_ne_nil
  have hlabel : (intNumeral n ++ " ms").toList = Nat.toDigits 10 n ++ ' ' :: "ms".toList := by
    simp [intNumeral]
  rw [shownValue?_of_numeral hlabel (hdigits.isWord Nat.toDigits_ne_nil) hread]
  simp [Decimal.value, digitsValue_toDigits]

theorem milliseconds_pos (scale : Scale) : 0 < scale.milliseconds := by
  cases scale <;> decide

theorem milliseconds_le (scale : Scale) : scale.milliseconds ≤ 2 ^ 53 := by
  cases scale <;> decide

/-- **The label is written from the hundredths.** -/
theorem label_hundredths (hscale : scale ≠ .millisecond) (h53 : offset < 2 ^ 53) :
    scale.label (.int offset) =
      .ok (placesText (scale.hundredths offset) ++ " " ++ scale.marker) := by
  obtain ⟨q, hq⟩ := Number.exists_div (a := .int offset) (milliseconds_pos scale)
    (Nat.lt_trans h53 pow_lt_wholeBound) trivial
  obtain ⟨y, hy, rfl⟩ := Number.eq_of_div_int hq
  obtain ⟨hsign, hunits⟩ := Binary64.eq_of_ofRatio hy
  have hnonneg : y.negative = false := by rw [hsign]; simp
  have htext : (Binary64.finite y).twoPlaces = placesText (scale.hundredths offset) := by
    rw [twoPlaces_of_nonneg hnonneg, hunits, hundredths, Int.natAbs_natCast]
  rw [← htext]
  cases scale with
  | millisecond => exact absurd rfl hscale
  | second => exact Except.bind_eq_ok.2 ⟨_, hq, rfl⟩
  | minute => exact Except.bind_eq_ok.2 ⟨_, hq, rfl⟩

/-- **The hundredths are the nearest ones of the exact quotient.** The unit is twice as many
milliseconds as there are from one hundredth to the middle between it and the next. -/
theorem hundredths_error (hscale : scale ≠ .millisecond) (h53 : offset < 2 ^ 53) :
    200 * offset ≤ 2 * (scale.hundredths offset * scale.milliseconds) + scale.milliseconds ∧
      2 * (scale.hundredths offset * scale.milliseconds) ≤
        200 * offset + scale.milliseconds := by
  obtain ⟨half, hhalf⟩ : ∃ half, scale.milliseconds = 200 * half := by
    cases scale with
    | millisecond => exact absurd rfl hscale
    | second => exact ⟨5, rfl⟩
    | minute => exact ⟨300, rfl⟩
  have hpos := unitsPerOne_pos
  have hround := roundHalfEven_error (roundToGrid (offset * unitsPerOne) scale.milliseconds * 100)
    unitsPerOne hpos
  have hnear := roundToGrid_mul_near (milliseconds_pos scale) (milliseconds_le scale) h53
  rw [← hundredths] at hround
  generalize roundToGrid (offset * unitsPerOne) scale.milliseconds = rounded at hround hnear
  generalize scale.hundredths offset = count at hround ⊢
  rw [hhalf] at hnear ⊢
  have hlower := Nat.mul_le_mul_right half hround.1
  have hupper := Nat.mul_le_mul_right half hround.2
  -- in units both sides are compared strictly, with a millisecond to spare
  constructor
  · have hlt : offset * unitsPerOne < (2 * count * half + half + 1) * unitsPerOne := by
      calc offset * unitsPerOne < rounded * (200 * half) + unitsPerOne := hnear.1
        _ = 2 * (rounded * 100) * half + unitsPerOne := by ring
        _ ≤ (2 * (count * unitsPerOne) + unitsPerOne) * half + unitsPerOne :=
          Nat.add_le_add_right hlower _
        _ = (2 * count * half + half + 1) * unitsPerOne := by ring
    have hle := Nat.le_of_lt_succ (Nat.lt_of_mul_lt_mul_right hlt)
    calc 200 * offset ≤ 200 * (2 * count * half + half) := Nat.mul_le_mul_left _ hle
      _ = 2 * (count * (200 * half)) + 200 * half := by ring
  · have hlt : 2 * count * half * unitsPerOne < (offset + half + 1) * unitsPerOne := by
      calc 2 * count * half * unitsPerOne = 2 * (count * unitsPerOne) * half := by ring
        _ ≤ (2 * (rounded * 100) + unitsPerOne) * half := hupper
        _ = rounded * (200 * half) + unitsPerOne * half := by ring
        _ < offset * unitsPerOne + unitsPerOne + unitsPerOne * half :=
          Nat.add_lt_add_right hnear.2 _
        _ = (offset + half + 1) * unitsPerOne := by ring
    have hle := Nat.le_of_lt_succ (Nat.lt_of_mul_lt_mul_right hlt)
    calc 2 * (count * (200 * half)) = 200 * (2 * count * half) := by ring
      _ ≤ 200 * (offset + half) := Nat.mul_le_mul_left _ hle
      _ = 200 * offset + 200 * half := by ring

/-- Hundredths that are the nearest ones are in the order of the offsets. -/
theorem hundredths_mono (hscale : scale ≠ .millisecond) (h53 : larger < 2 ^ 53)
    (hle : offset ≤ larger) : scale.hundredths offset ≤ scale.hundredths larger := by
  rcases Nat.eq_or_lt_of_le hle with rfl | hlt
  · exact Nat.le_refl _
  obtain ⟨-, hupper⟩ := hundredths_error hscale (Nat.lt_trans hlt h53)
  obtain ⟨hlower, -⟩ := hundredths_error hscale h53
  have hproduct : scale.hundredths offset * scale.milliseconds <
      (scale.hundredths larger + 1) * scale.milliseconds := by
    rw [Nat.succ_mul]
    omega
  exact Nat.le_of_lt_succ (Nat.lt_of_mul_lt_mul_right hproduct)

/-- The number that the label of an offset shows. -/
def labelValue (scale : Scale) (offset : Nat) : ℚ :=
  match scale with
  | .millisecond => offset
  | _ => (scale.hundredths offset : ℚ) / 100

/-- The label of an offset below `2 ^ 53`. -/
def labelText (scale : Scale) (offset : Nat) : String :=
  match scale with
  | .millisecond => intNumeral offset ++ " ms"
  | _ => placesText (scale.hundredths offset) ++ " " ++ scale.marker

theorem label_eq_labelText (scale : Scale) (h53 : offset < 2 ^ 53) :
    scale.label (.int offset) = .ok (scale.labelText offset) := by
  cases scale with
  | millisecond => exact label_millisecond h53
  | second => exact label_hundredths (by decide) h53
  | minute => exact label_hundredths (by decide) h53

theorem shownValue?_labelText (scale : Scale) (offset : Nat) :
    shownValue? (scale.labelText offset) = some (scale.labelValue offset) := by
  cases scale with
  | millisecond => exact shownValue?_intNumeral offset
  | second => exact shownValue?_places _ _
  | minute => exact shownValue?_places _ _

theorem exists_label_value (scale : Scale) (h53 : offset < 2 ^ 53) :
    ∃ label, scale.label (.int offset) = .ok label ∧
      shownValue? label = some (scale.labelValue offset) :=
  ⟨_, label_eq_labelText scale h53, shownValue?_labelText scale offset⟩

theorem labelValue_mono (scale : Scale) (h53 : larger < 2 ^ 53) (hle : offset ≤ larger) :
    scale.labelValue offset ≤ scale.labelValue larger := by
  have hplaces (h : scale ≠ .millisecond) :
      (scale.hundredths offset : ℚ) / 100 ≤ (scale.hundredths larger : ℚ) / 100 :=
    div_le_div_of_nonneg_right (Nat.cast_le.2 (hundredths_mono h h53 hle)) (by norm_num)
  cases scale with
  | millisecond => exact Nat.cast_le.2 hle
  | second => exact hplaces (by decide)
  | minute => exact hplaces (by decide)

theorem labelValue_error (hscale : scale ≠ .millisecond) (h53 : offset < 2 ^ 53) :
    |scale.labelValue offset - (offset : ℚ) / scale.milliseconds| ≤ 1 / 200 := by
  have hvalue : scale.labelValue offset = (scale.hundredths offset : ℚ) / 100 := by
    cases scale with
    | millisecond => exact absurd rfl hscale
    | second => rfl
    | minute => rfl
  have hpos : (0 : ℚ) < scale.milliseconds := Nat.cast_pos.2 (milliseconds_pos scale)
  obtain ⟨hlower, hupper⟩ := hundredths_error hscale h53
  have hlower' : 200 * (offset : ℚ) ≤
      2 * (scale.hundredths offset * scale.milliseconds) + scale.milliseconds := by
    exact_mod_cast hlower
  have hupper' : 2 * ((scale.hundredths offset : ℚ) * scale.milliseconds) ≤
      200 * offset + scale.milliseconds := by
    exact_mod_cast hupper
  have hbelow : (offset : ℚ) / scale.milliseconds ≤ scale.hundredths offset / 100 + 1 / 200 := by
    rw [div_le_iff₀ hpos]
    linarith
  have habove : (scale.hundredths offset : ℚ) / 100 - 1 / 200 ≤ offset / scale.milliseconds := by
    rw [le_div_iff₀ hpos]
    linarith
  rw [hvalue, abs_le]
  constructor <;> linarith

/-- **Labels tell the offset.** In milliseconds the label is the numeral of the offset; in seconds
and minutes it has two places, and shows a number within half a hundredth of the exact quotient. In
each scale, labels of larger offsets never show smaller numbers. -/
theorem label_tells (scale : Scale) (h53 : offset < 2 ^ 53) :
    ∃ label value, scale.label (.int offset) = .ok label ∧ shownValue? label = some value ∧
      (scale = .millisecond → label = intNumeral offset ++ " ms" ∧ value = offset) ∧
      (scale ≠ .millisecond → HasTwoPlaces scale.marker label ∧
        |value - (offset : ℚ) / scale.milliseconds| ≤ 1 / 200) ∧
      ∀ larger < 2 ^ 53, offset ≤ larger → ∃ label' value',
        scale.label (.int (larger : Nat)) = .ok label' ∧ shownValue? label' = some value' ∧
          value ≤ value' := by
  obtain ⟨label, hlabel, hvalue⟩ := exists_label_value scale h53
  refine ⟨label, _, hlabel, hvalue, ?_, fun hscale => ⟨?_, labelValue_error hscale h53⟩, ?_⟩
  · rintro rfl
    exact ⟨Except.ok.inj (hlabel.symm.trans (label_millisecond h53)), rfl⟩
  · rw [Except.ok.inj (hlabel.symm.trans (label_hundredths hscale h53))]
    exact hasTwoPlaces _ _
  · intro larger hlarger hle
    obtain ⟨label', hlabel', hvalue'⟩ := exists_label_value scale hlarger
    exact ⟨label', _, hlabel', hvalue', labelValue_mono scale hlarger hle⟩

/-- Five thousandths of a minute are in the middle between two hundredths, and the quotient is
rounded up from there; the label is half a hundredth off. -/
theorem label_tells_middle : ∃ value, minute.label (.int 300) = .ok "0.01 min" ∧
    shownValue? "0.01 min" = some value ∧ HasTwoPlaces "min" "0.01 min" ∧
    |value - (300 : Nat) / (60000 : Nat)| ≤ 1 / 200 := by
  obtain ⟨label, value, hlabel, hvalue, -, hplaces, -⟩ :=
    label_tells minute (by decide : 300 < 2 ^ 53)
  have hknown : minute.label (.int 300) = .ok "0.01 min" := by decide +kernel
  obtain rfl := Except.ok.inj (hlabel.symm.trans hknown)
  obtain ⟨hform, herror⟩ := hplaces (by decide)
  exact ⟨value, hknown, hvalue, hform, herror⟩

end Scale

end NetTimeline
