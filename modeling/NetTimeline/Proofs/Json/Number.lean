import NetTimeline.Json.Reader
import NetTimeline.Json.Writer
import NetTimeline.Proofs.Number.Decimal

/-!
# Reading a written number back

A number in a document is a `Numeral`: a sign, digits before the point, digits behind it and an
exponent, of which the last two may be missing. The reader takes a numeral apart again, whatever
stands behind it, provided that it could not belong to the number. The three layouts in which a
decimal is written, with all digits in front of the point, with the point among them and with an
exponent, are such numerals and have the decimal's value.

Principal results:

* `Numeral.read_float`, `Numeral.read_int` — what the reader makes of a numeral;
* `exists_numeral` — a decimal is written as a numeral of its value;
* `readNumber_writeFloat` — a finite value is read back as it is, with the sign of a zero.
-/

set_option autoImplicit false

namespace NetTimeline.Json

/-- The text does not go on with a character of a number. -/
def Ends (rest : List Char) : Prop :=
  ∀ c ∈ rest.head?, c.isDigit = false ∧ c ≠ '.' ∧ c ≠ 'e' ∧ c ≠ 'E'

namespace Ends

variable {rest : List Char}

theorem nil : Ends [] := by
  intro c hc
  cases hc

theorem cons {c : Char} (hdigit : c.isDigit = false) (hpoint : c ≠ '.') (hsmall : c ≠ 'e')
    (hlarge : c ≠ 'E') : Ends (c :: rest) := by
  intro d hd
  cases hd
  exact ⟨hdigit, hpoint, hsmall, hlarge⟩

theorem noDigitAhead (h : Ends rest) : NoDigitAhead rest := fun c hc => (h c hc).1

theorem exponent?_eq (h : Ends rest) : exponent? rest = none := by
  cases rest with
  | nil => rfl
  | cons c cs =>
    obtain ⟨-, -, hsmall, hlarge⟩ := h c rfl
    simp [exponent?, hsmall, hlarge]

end Ends

/-! ## Numerals -/

/-- The parts of a number's text. -/
structure Numeral where
  negative : Bool
  whole : List Char
  fraction : List Char
  /-- Whether the exponent is negative, and its digits. -/
  exponent : Option (Bool × List Char)
  whole_digits : AllDigits whole
  whole_ne_nil : whole ≠ []
  /-- A zero at the front is the only digit before the point. -/
  whole_zero : whole.head? = some '0' → whole = ['0']
  fraction_digits : AllDigits fraction
  exponent_digits : ∀ e ∈ exponent, AllDigits e.2 ∧ e.2 ≠ []

namespace Numeral

variable (n : Numeral)

def fractionText : List Char := if n.fraction = [] then [] else '.' :: n.fraction

def exponentText : List Char :=
  match n.exponent with
  | none => []
  | some (negative, digits) => 'e' :: (if negative then '-' else '+') :: digits

def unsigned : List Char := n.whole ++ n.fractionText ++ n.exponentText

def text : List Char := if n.negative then '-' :: n.unsigned else n.unsigned

def exponentValue : Int :=
  match n.exponent with
  | none => 0
  | some (true, digits) => -(digitsValue digits : Int)
  | some (false, digits) => digitsValue digits

/-- The value of a numeral that is not whole. -/
def decimal : Decimal :=
  ⟨n.negative, digitsValue (n.whole ++ n.fraction), n.exponentValue - n.fraction.length⟩

theorem exists_first :
    ∃ c rest, n.unsigned = c :: rest ∧ c.isDigit = true := by
  obtain ⟨c, cs, hwhole⟩ := List.exists_cons_of_ne_nil n.whole_ne_nil
  refine ⟨c, cs ++ n.fractionText ++ n.exponentText, ?_, n.whole_digits c (by simp [hwhole])⟩
  simp [unsigned, hwhole]

theorem text_eq_cons : ∃ c cs, n.text = c :: cs ∧ (c = '-' ∨ c.isDigit = true) := by
  obtain ⟨c, cs, hc, hdigit⟩ := n.exists_first
  unfold text
  split
  · exact ⟨'-', _, rfl, .inl rfl⟩
  · exact ⟨c, cs, hc, .inr hdigit⟩

variable {rest : List Char}

theorem spanMinus_text : spanMinus (n.text ++ rest) = (n.negative, n.unsigned ++ rest) := by
  unfold text
  cases n.negative with
  | true => rfl
  | false =>
    obtain ⟨c, cs, hc, hdigit⟩ := n.exists_first
    have hminus : c ≠ '-' := by
      rintro rfl
      exact absurd hdigit (by decide)
    simp [hc, spanMinus, hminus]

theorem exponentText_eq_nil (h : n.exponent = none) : n.exponentText = [] := by
  simp [exponentText, h]

/-- Behind the fraction stands neither a digit nor a point. -/
theorem head?_exponentText (hrest : Ends rest) :
    ∀ c ∈ (n.exponentText ++ rest).head?, c.isDigit = false ∧ c ≠ '.' := by
  intro c hc
  unfold exponentText at hc
  split at hc
  · exact ⟨(hrest c hc).1, (hrest c hc).2.1⟩
  · cases hc
    decide

theorem head?_fractionText (hrest : Ends rest) :
    NoDigitAhead (n.fractionText ++ n.exponentText ++ rest) := by
  unfold fractionText
  split
  · exact fun c hc => (n.head?_exponentText hrest c hc).1
  · rintro c hc
    cases hc
    decide

theorem spanWhole_unsigned (hrest : Ends rest) :
    spanWhole (n.unsigned ++ rest) = (n.whole, n.fractionText ++ n.exponentText ++ rest) := by
  have hspan := spanDigits_eq n.whole_digits (n.head?_fractionText hrest)
  rw [unsigned, List.append_assoc n.whole, List.append_assoc n.whole]
  rcases Decidable.em (n.whole.head? = some '0') with hzero | hnonzero
  · rw [n.whole_zero hzero]
    rfl
  · rw [← hspan]
    obtain ⟨c, cs, hwhole⟩ := List.exists_cons_of_ne_nil n.whole_ne_nil
    have hc : c ≠ '0' := by
      rintro rfl
      exact hnonzero (by rw [hwhole]; rfl)
    rw [hwhole, List.cons_append]
    unfold spanWhole
    split
    · rename_i h
      cases h
      exact absurd rfl hc
    · rfl

theorem fraction?_text (hrest : Ends rest) :
    (fraction? (n.fractionText ++ n.exponentText ++ rest)).getD
        ([], n.fractionText ++ n.exponentText ++ rest) =
      (n.fraction, n.exponentText ++ rest) := by
  have hahead := n.head?_exponentText hrest
  rw [List.append_assoc]
  unfold fractionText
  split
  · rename_i hnil
    have hnone : fraction? (n.exponentText ++ rest) = none := by
      unfold fraction?
      split
      · rename_i hpoint
        rw [hpoint] at hahead
        exact absurd rfl (hahead '.' rfl).2
      · rfl
    rw [List.nil_append, hnone, hnil]
    rfl
  · rename_i hne
    have hspan := spanDigits_eq n.fraction_digits fun c hc => (hahead c hc).1
    simp [fraction?, hspan, hne]

theorem exponent?_text (hrest : Ends rest) :
    exponent? (n.exponentText ++ rest) =
      n.exponent.map fun _ => (n.exponentValue, rest) := by
  unfold exponentText exponentValue
  cases h : n.exponent with
  | none => exact hrest.exponent?_eq
  | some e =>
    obtain ⟨negative, digits⟩ := e
    obtain ⟨hdigits, hne⟩ := n.exponent_digits _ h
    have hspan := spanDigits_eq hdigits hrest.noDigitAhead
    cases negative <;> simp [exponent?, spanSign, hspan, hne]

/-- **The reader takes a numeral apart**, whatever follows it. -/
theorem readNumber_text (hrest : Ends rest) :
    readNumber (n.text ++ rest) =
      match n.exponent with
      | some _ => .ok (.float n.decimal.toBinary64, rest)
      | none =>
        if n.fraction ≠ [] then .ok (.float n.decimal.toBinary64, rest)
        else if maxIntDigits < n.whole.length then .error (.tooManyDigits n.whole.length)
        else
          .ok (.int (if n.negative then -(digitsValue n.whole : Int) else digitsValue n.whole),
            rest) := by
  unfold readNumber
  simp only [n.spanMinus_text, n.spanWhole_unsigned hrest, n.whole_ne_nil, if_false,
    n.fraction?_text hrest, n.exponent?_text hrest]
  unfold decimal
  cases h : n.exponent with
  | some e => rfl
  | none =>
    have hvalue : n.exponentValue = 0 := by
      unfold exponentValue
      rw [h]
    simp [hvalue, n.exponentText_eq_nil h]

theorem read_float (hrest : Ends rest) (h : n.fraction ≠ [] ∨ n.exponent ≠ none) :
    readNumber (n.text ++ rest) = .ok (.float n.decimal.toBinary64, rest) := by
  rw [n.readNumber_text hrest]
  cases hexponent : n.exponent with
  | some e => rfl
  | none =>
    rcases h with hfraction | hnone
    · exact if_pos hfraction
    · exact absurd hexponent hnone

theorem read_int (hrest : Ends rest) (hfraction : n.fraction = []) (hexponent : n.exponent = none)
    (hdigits : n.whole.length ≤ maxIntDigits) :
    readNumber (n.text ++ rest) =
      .ok (.int (if n.negative then -(digitsValue n.whole : Int) else digitsValue n.whole),
        rest) := by
  rw [n.readNumber_text hrest, hexponent]
  simp [hfraction, Nat.not_lt.2 hdigits]

/-- A numeral is not the name of a value. -/
theorem readNamed?_text : readNamed? (n.text ++ rest) = none := by
  obtain ⟨c, cs, hc, hdigit⟩ := n.exists_first
  have hne : ∀ d : Char, d.isDigit = false → d ≠ c := by
    rintro d hd rfl
    rw [hd] at hdigit
    cases hdigit
  unfold text
  cases n.negative <;>
    simp [readNamed?, namedValues, Text.after?, hc, hne 'n' (by decide), hne 't' (by decide),
      hne 'f' (by decide), hne 'N' (by decide), hne 'I' (by decide), hne '-' (by decide)]

end Numeral

/-! ## Decimals -/

namespace Numeral

open Layout (Significant)

variable {ds : List Char} {point : Int} (negative : Bool)

/-- A decimal whose digits all stand behind the point. -/
def behind (h : Significant ds point) : Numeral where
  negative := negative
  whole := ['0']
  fraction := List.replicate (-point).toNat '0' ++ ds
  exponent := none
  whole_digits := AllDigits.zeros 1
  whole_ne_nil := by simp
  whole_zero := fun _ => rfl
  fraction_digits := (AllDigits.zeros _).append h.digits
  exponent_digits := by simp

theorem decimal_behind (h : Significant ds point) (hpoint : point ≤ 0) :
    (behind negative h).decimal = ⟨negative, digitsValue ds, point - ds.length⟩ := by
  have hvalue : digitsValue (['0'] ++ (List.replicate (-point).toNat '0' ++ ds)) =
      digitsValue ds := by
    rw [← List.append_assoc, digitsValue_append_eq]
    rw [show ['0'] ++ List.replicate (-point).toNat '0' =
      List.replicate ((-point).toNat + 1) '0' from List.replicate_succ.symm,
      digitsValue_replicate_zero, Nat.zero_mul, Nat.zero_add]
  have hexponent : (0 : Int) - ((-point).toNat + ds.length : Nat) = point - ds.length := by omega
  simp only [decimal, behind, exponentValue, hvalue, List.length_append, List.length_replicate,
    hexponent]

theorem unsigned_behind (h : Significant ds point) (layout : Layout) (hpoint : point ≤ 0) :
    (behind negative h).unsigned = layout.positional ds point := by
  simp [unsigned, fractionText, exponentText, behind, Layout.positional, hpoint, h.ne_nil]

/-- A whole decimal, with as many zeros behind its digits as it takes to reach the point, and one
behind the point if whole numbers keep theirs. -/
def before (layout : Layout) (h : Significant ds point) (hpoint : ds.length ≤ point.toNat) :
    Numeral where
  negative := negative
  whole := ds ++ List.replicate (point.toNat - ds.length) '0'
  fraction := if layout.wholePoint then ['0'] else []
  exponent := none
  whole_digits := h.digits.append (AllDigits.zeros _)
  whole_ne_nil := by simp [h.ne_nil]
  whole_zero := by
    intro hhead
    rw [List.head?_append_of_ne_nil _ h.ne_nil] at hhead
    obtain ⟨rfl, rfl⟩ := h.zero hhead
    rfl
  fraction_digits := by
    split
    · exact AllDigits.zeros 1
    · exact AllDigits.zeros 0
  exponent_digits := by simp

theorem value_before (layout : Layout) (h : Significant ds point)
    (hpoint : ds.length ≤ point.toNat) :
    (before negative layout h hpoint).decimal.value =
      (⟨negative, digitsValue ds, point - ds.length⟩ : Decimal).value := by
  have hpositive := h.length_pos
  have hfraction : ∃ k, (if layout.wholePoint then ['0'] else []) = List.replicate k '0' := by
    split
    · exact ⟨1, rfl⟩
    · exact ⟨0, rfl⟩
  obtain ⟨k, hk⟩ := hfraction
  have hvalue : digitsValue (ds ++ List.replicate (point.toNat - ds.length) '0' ++
      List.replicate k '0') = digitsValue ds * 10 ^ (point.toNat - ds.length + k) := by
    rw [List.append_assoc, List.replicate_append_replicate, digitsValue_append_zeros]
  have hexponent : (0 : Int) - k + (point.toNat - ds.length + k : Nat) = point - ds.length := by
    omega
  simp only [decimal, before, exponentValue, hk, hvalue, Decimal.value_mul_pow,
    List.length_replicate, hexponent]

theorem unsigned_before (layout : Layout) (h : Significant ds point)
    (hpoint : ds.length ≤ point.toNat) :
    (before negative layout h hpoint).unsigned = layout.positional ds point := by
  have hpositive := h.length_pos
  have hnot : ¬ point ≤ 0 := by omega
  cases hlayout : layout.wholePoint <;>
    simp [unsigned, fractionText, exponentText, before, Layout.positional, hpoint, hnot, hlayout]

/-- A decimal whose point stands among its digits. -/
def among (h : Significant ds point) (hpositive : 0 < point) (hpoint : point.toNat < ds.length) :
    Numeral where
  negative := negative
  whole := ds.take point.toNat
  fraction := ds.drop point.toNat
  exponent := none
  whole_digits := h.digits.of_subset (List.take_subset _ _)
  whole_ne_nil := by
    have := h.ne_nil
    simp [this]
    omega
  whole_zero := by
    intro hhead
    rw [List.head?_take, if_neg (by omega)] at hhead
    obtain ⟨rfl, rfl⟩ := h.zero hhead
    rfl
  fraction_digits := h.digits.of_subset (List.drop_subset _ _)
  exponent_digits := by simp

theorem decimal_among (h : Significant ds point) (hpositive : 0 < point)
    (hpoint : point.toNat < ds.length) :
    (among negative h hpositive hpoint).decimal =
      ⟨negative, digitsValue ds, point - ds.length⟩ := by
  have hexponent : (0 : Int) - (ds.length - point.toNat : Nat) = point - ds.length := by omega
  simp only [decimal, among, exponentValue, List.take_append_drop, List.length_drop, hexponent]

theorem unsigned_among (h : Significant ds point) (hpositive : 0 < point)
    (hpoint : point.toNat < ds.length) (layout : Layout) :
    (among negative h hpositive hpoint).unsigned = layout.positional ds point := by
  simp [unsigned, fractionText, exponentText, among, Layout.positional, Int.not_le.2 hpositive,
    Nat.not_le.2 hpoint]

/-- A decimal with one digit before the point and an exponent of at least so many digits. -/
def scientific (width : Nat) (h : Significant ds point) : Numeral where
  negative := negative
  whole := ds.take 1
  fraction := ds.drop 1
  exponent := some (decide (point - 1 < 0),
    Text.padZeros width (Nat.toDigits 10 (point - 1).natAbs))
  whole_digits := h.digits.of_subset (List.take_subset _ _)
  whole_ne_nil := by simp [h.ne_nil]
  whole_zero := by
    intro hhead
    rw [List.head?_take, if_neg (by omega)] at hhead
    rw [(h.zero hhead).1]
    rfl
  fraction_digits := h.digits.of_subset (List.drop_subset _ _)
  exponent_digits := by
    intro e he
    cases he
    refine ⟨(AllDigits.toDigits _).padZeros _, ?_⟩
    simp [Text.padZeros, Nat.toDigits_ne_nil]

theorem decimal_scientific (width : Nat) (h : Significant ds point) :
    (scientific negative width h).decimal = ⟨negative, digitsValue ds, point - ds.length⟩ := by
  have hpositive := h.length_pos
  have hdigits : digitsValue (Text.padZeros width (Nat.toDigits 10 (point - 1).natAbs)) =
      (point - 1).natAbs := by
    rw [digitsValue_padZeros, digitsValue_toDigits]
  have hvalue : (scientific negative width h).exponentValue = point - 1 := by
    unfold exponentValue scientific
    rcases Decidable.em (point - 1 < 0) with hneg | hneg
    · simp only [hneg, decide_true, hdigits]
      omega
    · simp only [hneg, decide_false, hdigits]
      omega
  have hexponent : point - 1 - (ds.length - 1 : Nat) = point - ds.length := by omega
  rw [decimal, hvalue]
  simp only [scientific, List.take_append_drop, List.length_drop, hexponent]

theorem unsigned_scientific (h : Significant ds point) (layout : Layout) :
    (scientific negative layout.exponentWidth h).unsigned = layout.scientific ds point := by
  simp [unsigned, fractionText, exponentText, scientific, Layout.scientific]

end Numeral

/-- **A decimal is written as a numeral of its value**, and never as a whole one in a layout in
which whole numbers keep their point. -/
theorem exists_numeral (layout : Layout) (d : Decimal) :
    ∃ n : Numeral, n.text = layout.writeDecimal d ∧ n.negative = d.negative ∧
      n.decimal.value = d.value ∧
      (layout.wholePoint = true → n.fraction ≠ [] ∨ n.exponent ≠ none) := by
  obtain ⟨ds, point, hds, h, hvalue⟩ := Layout.significant_cases d
  have htext : ∀ n : Numeral, n.negative = d.negative →
      n.unsigned = (if layout.leastPositional ≤ point - 1 ∧ point - 1 < layout.pastPositional then
        layout.positional ds point else layout.scientific ds point) →
      n.text = layout.writeDecimal d := by
    intro n hnegative hunsigned
    simp only [Numeral.text, hunsigned, hnegative, Layout.writeDecimal, hds]
  rw [hvalue]
  by_cases hpositional : layout.leastPositional ≤ point - 1 ∧ point - 1 < layout.pastPositional
  · rw [if_pos hpositional] at htext
    rcases Int.lt_or_le 0 point with hpositive | hbehind
    · rcases Nat.lt_or_ge point.toNat ds.length with hamong | hbefore
      · refine ⟨.among d.negative h hpositive hamong,
          htext _ rfl (Numeral.unsigned_among _ h hpositive hamong layout), rfl, ?_,
          fun _ => .inl ?_⟩
        · rw [Numeral.decimal_among]
        · simp [Numeral.among, hamong]
      · refine ⟨.before d.negative layout h hbefore,
          htext _ rfl (Numeral.unsigned_before _ layout h hbefore), rfl,
          Numeral.value_before _ layout h hbefore, fun hlayout => .inl ?_⟩
        simp [Numeral.before, hlayout]
    · refine ⟨.behind d.negative h, htext _ rfl (Numeral.unsigned_behind _ h layout hbehind),
        rfl, ?_, fun _ => .inl ?_⟩
      · rw [Numeral.decimal_behind _ h hbehind]
      · simp [Numeral.behind, h.ne_nil]
  · rw [if_neg hpositional] at htext
    refine ⟨.scientific d.negative layout.exponentWidth h,
      htext _ rfl (Numeral.unsigned_scientific _ h layout), rfl, ?_, fun _ => .inr ?_⟩
    · rw [Numeral.decimal_scientific]
    · simp [Numeral.scientific]

/-- A whole number. -/
def Numeral.ofInt (k : Int) : Numeral where
  negative := decide (k < 0)
  whole := Nat.toDigits 10 k.natAbs
  fraction := []
  exponent := none
  whole_digits := AllDigits.toDigits _
  whole_ne_nil := Nat.toDigits_ne_nil
  whole_zero := by
    intro hhead
    rcases Nat.eq_zero_or_pos k.natAbs with hzero | hpositive
    · rw [hzero]
      rfl
    · exact absurd hhead (head?_toDigits_ne_zero hpositive)
  fraction_digits := by
    intro c hc
    cases hc
  exponent_digits := by simp

theorem Numeral.text_ofInt (k : Int) : (ofInt k).text = (intNumeral k).toList := by
  simp [text, unsigned, fractionText, exponentText, ofInt, intNumeral]

theorem Numeral.value_ofInt (k : Int) :
    (if (ofInt k).negative then -(digitsValue (ofInt k).whole : Int)
      else digitsValue (ofInt k).whole) = k := by
  simp only [ofInt, digitsValue_toDigits, decide_eq_true_eq]
  split <;> omega

/-! ## Values -/

variable {rest : List Char}

theorem writeFloat_finite (x : Finite64) :
    writeFloat (.finite x) =
      Layout.json.writeDecimal { x.magnitude.shortest with negative := x.negative } :=
  calc writeFloat (.finite x) = (Binary64.finite x).jsonText.toList := rfl
    _ = _ := String.toList_ofList

/-- A finite value is written as a numeral of it. -/
theorem exists_numeral_writeFloat (x : Finite64) :
    ∃ n : Numeral, n.text = writeFloat (.finite x) ∧ (n.fraction ≠ [] ∨ n.exponent ≠ none) ∧
      n.decimal.toBinary64 = .finite x := by
  rw [writeFloat_finite]
  obtain ⟨n, htext, hsign, hvalue, hparts⟩ := exists_numeral Layout.json
    { x.magnitude.shortest with negative := x.negative }
  refine ⟨n, htext, hparts rfl, ?_⟩
  rw [Decimal.toBinary64_congr hsign hvalue]
  exact Decimal.toBinary64_sign x.negative x.magnitude.toBinary64_shortest

/-- **A finite value is read back as it is**, with the sign of a zero. -/
theorem readNumber_writeFloat (x : Finite64) (hrest : Ends rest) :
    readNumber (writeFloat (.finite x) ++ rest) = .ok (.float (.finite x), rest) := by
  obtain ⟨n, htext, hparts, hvalue⟩ := exists_numeral_writeFloat x
  rw [← htext, n.read_float hrest hparts, hvalue]

theorem readNumber_intNumeral (k : Int) (hrest : Ends rest)
    (hdigits : decimalLength k.natAbs ≤ maxIntDigits) :
    readNumber ((intNumeral k).toList ++ rest) = .ok (.int k, rest) := by
  rw [← Numeral.text_ofInt, (Numeral.ofInt k).read_int hrest rfl rfl hdigits,
    Numeral.value_ofInt]

end NetTimeline.Json
