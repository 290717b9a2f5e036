import NetTimeline.Number.Decimal
import NetTimeline.Text.Part

/-!
# Numerals in the fields of an event

A field may hold its number as a text. A time is a decimal with white space around it, or one with
separators `_` inside it, but not both. A whole number in canonical form, which has no more signs
and zeros than it needs, is read as it stands; any other is cleaned first: of white space, a plus
sign, zeros in front, a fraction of zeros and separators.

This stands for how the library pydantic reads a number from a string.

Main statements: `readTimeText?_of_forall` — without separators, only white space is ignored;
`readWholeText_of_digits` — digits without a zero in front are read as the number that they write.
-/

set_option autoImplicit false

namespace NetTimeline

/-- The text without its separators `_`, if there are any, none stands at an end, and no two stand
side by side. -/
def withoutSeparators? (cs : List Char) : Option (List Char) :=
  if cs.contains '_' && cs.head? ≠ some '_' && cs.getLast? ≠ some '_' &&
      !Text.hasPart ['_', '_'] cs then
    some (cs.filter (· ≠ '_'))
  else none

theorem withoutSeparators?_of_forall {cs : List Char} (h : ∀ c ∈ cs, c ≠ '_') :
    withoutSeparators? cs = none := by
  have hnot : '_' ∉ cs := fun hin => h '_' hin rfl
  simp [withoutSeparators?, hnot]

/-! ## Times -/

/-- A time in a text. -/
def readTimeText? (cs : List Char) : Option Binary64 :=
  (readSigned? (Text.trim Text.isSpace cs)).or ((withoutSeparators? cs).bind readSigned?)

theorem readTimeText?_of_forall {cs : List Char} (h : ∀ c ∈ cs, c ≠ '_') :
    readTimeText? cs = readSigned? (Text.trim Text.isSpace cs) := by
  simp [readTimeText?, withoutSeparators?_of_forall h]

/-! ## Whole numbers -/

/-- Why a text is no whole number. -/
inductive WholeTextError where
  | unreadable
  | tooLong
  deriving DecidableEq, Repr

/-- A leading minus sign, and what follows it. -/
def spanMinus : List Char → List Char × List Char
  | '-' :: cs => (['-'], cs)
  | cs => ([], cs)

/-- A whole number in canonical form: an optional minus sign, then a zero or digits that do not
begin with one. Sign and digits have at most `maxIntDigits` characters; more are too long, whatever
follows them. -/
def readCanonical (cs : List Char) : Except WholeTextError Int :=
  let (sign, unsigned) := spanMinus cs
  let (digits, rest) := spanDigits unsigned
  if digits.isEmpty || (digits.head? = some '0' && 1 < digits.length) then .error .unreadable
  else if maxIntDigits < sign.length + digits.length then .error .tooLong
  else if !rest.isEmpty then .error .unreadable
  else .ok (if sign.isEmpty then digitsValue digits else -(digitsValue digits : Int))

/-- The text without zeros in front, among which separators may stand; a zero that ends it, or
stands in front of a point, is kept. Behind the zeros there may be a minus sign. -/
def dropZeros? : List Char → Option (List Char)
  | '0' :: cs =>
    let zeros := cs.takeWhile fun c => c = '0' || c = '_'
    let last := zeros.getLast?.getD '0'
    match cs.dropWhile fun c => c = '0' || c = '_' with
    | [] => some [last]
    | '.' :: rest => some (last :: '.' :: rest)
    | c :: rest => if c = '-' || c.isDigit then some (c :: rest) else none
  | c :: cs => if c.isDigit then some (c :: cs) else none
  | [] => none

/-- The text without a point and the zeros behind it, if it ends in these. -/
def dropZeroFraction (cs : List Char) : List Char :=
  let fraction := (cs.dropWhile (· ≠ '.')).drop 1
  if !fraction.isEmpty && fraction.all (· == '0') then cs.takeWhile (· ≠ '.') else cs

/-- An unsigned text in canonical form. -/
def cleanUnsigned? (cs : List Char) : Option (List Char) :=
  (dropZeros? cs).map fun cs =>
    let whole := dropZeroFraction cs
    (withoutSeparators? whole).getD whole

/-- A text in canonical form, if there is one for it. -/
def cleanWhole? (cs : List Char) : Option (List Char) :=
  match Text.trim Text.isSpace cs with
  | '+' :: cs => cleanUnsigned? cs
  | '-' :: cs => (cleanUnsigned? cs).map ('-' :: ·)
  | cs => cleanUnsigned? cs

/-- A whole number in a text. -/
def readWholeText (cs : List Char) : Except WholeTextError Int :=
  match readCanonical cs with
  | .error .unreadable =>
    match (cleanWhole? cs).map readCanonical with
    | some (.ok n) => .ok n
    | _ => .error .unreadable
  | result => result

theorem readWholeText_of_digits {digits : List Char} (hdigits : ∀ c ∈ digits, c.isDigit = true)
    (hne : digits ≠ []) (hzero : digits.head? = some '0' → digits.length = 1)
    (hlength : digits.length ≤ maxIntDigits) :
    readWholeText digits = .ok (digitsValue digits) := by
  have hspan : spanDigits digits = (digits, []) := by
    have htake : (digits ++ []).takeWhile Char.isDigit = digits ++ [].takeWhile Char.isDigit :=
      List.takeWhile_append_of_pos hdigits
    have hdrop : (digits ++ []).dropWhile Char.isDigit = [].dropWhile Char.isDigit :=
      List.dropWhile_append_of_pos hdigits
    simpa [spanDigits] using And.intro htake hdrop
  have hsign : spanMinus digits = ([], digits) := by
    unfold spanMinus
    split
    · rename_i cs
      exact absurd (hdigits '-' (by simp)) (by decide)
    · rfl
  have hcanonical : readCanonical digits = .ok (digitsValue digits) := by
    have hhead : ¬ (digits.head? = some '0' ∧ 1 < digits.length) := fun h => by
      have := hzero h.1
      omega
    simp [readCanonical, hsign, hspan, hne, hhead, Nat.not_lt.2 hlength]
  simp [readWholeText, hcanonical]

example : (readWholeText "0-_1".toList).toOption = some (-1) := by decide +kernel
example : (readWholeText " +0_0200.00 ".toList).toOption = some 200 := by decide +kernel

end NetTimeline
