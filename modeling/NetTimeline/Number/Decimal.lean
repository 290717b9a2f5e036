import NetTimeline.Number.Binary64
import NetTimeline.Text.Digit
import NetTimeline.Text.Space

/-!
# Decimal numerals

A decimal is a sign, a coefficient and a power of ten; `Decimal.toBinary64` is the nearest binary64
value. Texts are read as by `float` and `int`, by `readBinary64?` (fractions, exponents, infinities
and NaN) and `readInt?` (whole numbers); in both, `_` may stand between two digits.

Main statements: `digitsValue_toDigits` — a written number reads back; `digitsValue_lt` — so many
digits make a number below that power of ten; `dropSeparators_of_forall` — a text without `_` is
left alone.
-/

set_option autoImplicit false

namespace NetTimeline

/-- The number `coefficient * 10 ^ exponent`, negated if `negative`. -/
structure Decimal where
  negative : Bool
  coefficient : Nat
  exponent : Int
  deriving DecidableEq, Repr

namespace Decimal

/-- The nearest binary64 value. A coefficient of `b` binary digits has at most `b` decimal ones, so
beyond the two bounds on the exponent the value is infinite or a zero without any computation. -/
def toBinary64 (d : Decimal) : Binary64 :=
  if d.coefficient = 0 then .finite ⟨d.negative, .zero⟩
  else if 400 < d.exponent then .infinite d.negative
  else if d.exponent + d.coefficient.log2 < -400 then .finite ⟨d.negative, .zero⟩
  else if 0 ≤ d.exponent then
    .ofRatio d.negative (d.coefficient * Nat.pow 10 d.exponent.toNat * unitsPerOne) 1
  else .ofRatio d.negative (d.coefficient * unitsPerOne) (Nat.pow 10 (-d.exponent).toNat)

end Decimal

/-! ## Digits -/

/-- The value of a run of ASCII digits. -/
def digitsValue (cs : List Char) : Nat := Nat.ofDigitChars 10 cs 0

theorem digitsValue_toDigits (n : Nat) : digitsValue (Nat.toDigits 10 n) = n :=
  Nat.ofDigitChars_ten_toDigits

theorem digitsValue_append (cs : List Char) (c : Char) :
    digitsValue (cs ++ [c]) = 10 * digitsValue cs + (c.toNat - 48) := by
  simp [digitsValue, Nat.ofDigitChars_append, Nat.ofDigitChars_cons]

theorem toNat_sub_lt_of_isDigit {c : Char} (h : c.isDigit = true) : c.toNat - 48 < 10 := by
  have hrange : 48 ≤ c.toNat ∧ c.toNat ≤ 57 := by
    simpa [Char.isDigit, UInt32.le_iff_toNat_le] using h
  omega

theorem digitsValue_lt {cs : List Char} (h : ∀ c ∈ cs, c.isDigit = true) :
    digitsValue cs < Nat.pow 10 cs.length := by
  induction hn : cs.length generalizing cs with
  | zero =>
    rw [List.eq_nil_of_length_eq_zero hn]
    decide
  | succ n ih =>
    have hne : cs ≠ [] := by
      rintro rfl
      simp at hn
    have hback := List.dropLast_concat_getLast hne
    have hlength : cs.dropLast.length = n := by simp [hn]
    have hlt := ih (fun c hc => h c ((List.dropLast_sublist cs).subset hc)) hlength
    have hlast := toNat_sub_lt_of_isDigit (h _ (List.getLast_mem hne))
    rw [← hback, digitsValue_append]
    have hpow : Nat.pow 10 (n + 1) = Nat.pow 10 n * 10 := rfl
    omega

/-- The longest run of ASCII digits at the front, and what follows it. -/
def spanDigits (cs : List Char) : List Char × List Char :=
  (cs.takeWhile Char.isDigit, cs.dropWhile Char.isDigit)

theorem spanDigits_append (cs : List Char) : (spanDigits cs).1 ++ (spanDigits cs).2 = cs :=
  List.takeWhile_append_dropWhile

/-- The text without its separators `_`, unless one of them stands elsewhere than between two
digits; `afterDigit` tells whether a digit stands before the text. -/
def dropSeparators (afterDigit : Bool) : List Char → Option (List Char)
  | [] => some []
  | '_' :: cs =>
    match cs with
    | c :: _ => if afterDigit && c.isDigit then dropSeparators false cs else none
    | [] => none
  | c :: cs => (dropSeparators c.isDigit cs).map (c :: ·)

theorem dropSeparators_of_forall {cs : List Char} (h : ∀ c ∈ cs, c ≠ '_') (afterDigit : Bool) :
    dropSeparators afterDigit cs = some cs := by
  induction cs generalizing afterDigit with
  | nil => rfl
  | cons c cs ih =>
    have hne : c ≠ '_' := h c (by simp)
    have hcs := ih (fun x hx => h x (by simp [hx])) c.isDigit
    rw [dropSeparators.eq_def]
    split
    · contradiction
    · simp_all
    · simp_all

/-- A leading sign, and what follows it: `true` for a minus. -/
def spanSign : List Char → Bool × List Char
  | '-' :: cs => (true, cs)
  | '+' :: cs => (false, cs)
  | cs => (false, cs)

/-! ## Reading -/

/-- The exponent that ends a numeral: nothing, or `e`, an optional sign and digits. -/
def readExponent? : List Char → Option Int
  | [] => some 0
  | mark :: cs =>
    if mark = 'e' ∨ mark = 'E' then
      let (negative, digits) := spanSign cs
      if digits ≠ [] ∧ digits.all Char.isDigit then
        some (if negative then -(digitsValue digits : Int) else digitsValue digits)
      else none
    else none

/-- The digits after a decimal point, if there is one, and what follows them. -/
def spanFraction : List Char → List Char × List Char
  | '.' :: cs => spanDigits cs
  | cs => ([], cs)

/-- An unsigned decimal numeral: digits before the point, after it, or both, and an exponent. -/
def readDecimal? (negative : Bool) (cs : List Char) : Option Decimal :=
  let (whole, afterWhole) := spanDigits cs
  let (fraction, afterFraction) := spanFraction afterWhole
  if whole = [] ∧ fraction = [] then none
  else (readExponent? afterFraction).map fun exponent =>
    ⟨negative, digitsValue (whole ++ fraction), exponent - fraction.length⟩

/-- The text in lower case, for the names of the values that are not finite. -/
def lowerAscii (cs : List Char) : List Char := cs.map Char.toLower

/-- A numeral without separators and blanks: an optional sign, then a decimal or the name of a
value that is not finite, in any letter case. -/
def readSigned? (cs : List Char) : Option Binary64 :=
  let (negative, unsigned) := spanSign cs
  let name := lowerAscii unsigned
  if name = "inf".toList ∨ name = "infinity".toList then some (.infinite negative)
  else if name = "nan".toList then some .nan
  else (readDecimal? negative unsigned).map Decimal.toBinary64

/-- A binary64 numeral with white space around it and separators inside. -/
def readBinary64? (cs : List Char) : Option Binary64 :=
  (dropSeparators false (Text.trim Text.isSpace cs)).bind readSigned?

/-- The most digits that a whole number is read from or written with. -/
def maxIntDigits : Nat := 4300

/-- A whole numeral with white space around it and separators inside. -/
def readInt? (cs : List Char) : Option Int :=
  (dropSeparators false (Text.trim Text.isSpace cs)).bind fun signed =>
    let (negative, digits) := spanSign signed
    if digits ≠ [] ∧ digits.all Char.isDigit ∧ digits.length ≤ maxIntDigits then
      some (if negative then -(digitsValue digits : Int) else digitsValue digits)
    else none

end NetTimeline
