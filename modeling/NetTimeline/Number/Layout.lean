import NetTimeline.Number.Shortest

/-!
# Writing binary64 values

A value is written from a decimal: the shortest one that reads back, or one of six significant
digits. `Layout` holds the decisions of a format: which exponents are written positionally, whether
a whole number keeps a point, and the width of an exponent. Three layouts are in use:
`Layout.message` is that of `repr`, `Layout.json` that of the JSON writer of the library pydantic,
and `Layout.table` that of the format `g`. Labels have the format `.2f`, in `Binary64.twoPlaces`.

Main statements, for every layout:

* `Layout.exponent_mem_writeDecimal_iff` — which decimals are written with an exponent;
* `Layout.point_mem_positional_iff` — which numbers without one are written with a point.

That the numbers of a document read back as they are is proved in `NetTimeline.Proofs.Json.Number`.
-/

set_option autoImplicit false

namespace NetTimeline

/-- The decisions of a number format. -/
structure Layout where
  /-- The least decimal exponent that is written positionally. -/
  leastPositional : Int
  /-- The least decimal exponent past those. -/
  pastPositional : Int
  /-- Whether a whole number that is written positionally ends in `.0`. -/
  wholePoint : Bool
  /-- The least number of digits of an exponent. -/
  exponentWidth : Nat
  deriving DecidableEq, Repr

/-- Numbers in messages: exponents from `-4` to `15` are written positionally. -/
def Layout.message : Layout := ⟨-4, 16, true, 2⟩

/-- Numbers in a JSON document: exponents from `-5` to `15` are written positionally. -/
def Layout.json : Layout := ⟨-5, 16, true, 1⟩

/-- Numbers in a table, of six significant digits. -/
def Layout.table : Layout := ⟨-4, 6, false, 2⟩

namespace Layout

/-- The digits `0.d₁d₂… * 10 ^ point` without an exponent. -/
def positional (layout : Layout) (digits : List Char) (point : Int) : List Char :=
  if point ≤ 0 then '0' :: '.' :: (List.replicate (-point).toNat '0' ++ digits)
  else if digits.length ≤ point.toNat then
    digits ++ List.replicate (point.toNat - digits.length) '0' ++
      (if layout.wholePoint then ['.', '0'] else [])
  else digits.take point.toNat ++ '.' :: digits.drop point.toNat

/-- The digits `0.d₁d₂… * 10 ^ point` with one digit before the point and an exponent. -/
def scientific (layout : Layout) (digits : List Char) (point : Int) : List Char :=
  let exponent := point - 1
  let fraction := digits.drop 1
  digits.take 1 ++ (if fraction = [] then [] else '.' :: fraction) ++
    'e' :: (if exponent < 0 then '-' else '+') ::
      Text.padZeros layout.exponentWidth (Nat.toDigits 10 exponent.natAbs)

/-- The digits of a decimal without the zeros at its end, and where its point stands. -/
def significant (d : Decimal) : List Char × Int :=
  if d.coefficient = 0 then (['0'], 1)
  else
    let digits := Nat.toDigits 10 d.coefficient
    ((digits.reverse.dropWhile (· == '0')).reverse, digits.length + d.exponent)

/-- A decimal in the format. -/
def writeDecimal (layout : Layout) (d : Decimal) : List Char :=
  let (digits, point) := significant d
  let body :=
    if layout.leastPositional ≤ point - 1 ∧ point - 1 < layout.pastPositional then
      layout.positional digits point
    else layout.scientific digits point
  if d.negative then '-' :: body else body

/-- A value in the format, written from the decimal that `choose` picks for its magnitude. -/
def write (layout : Layout) (choose : Magnitude → Decimal) : Binary64 → String
  | .nan => "nan"
  | .infinite true => "-inf"
  | .infinite false => "inf"
  | .finite x => String.ofList
      (layout.writeDecimal { choose x.magnitude with negative := x.negative })

/-! ## Where an exponent and a point are written -/

theorem isDigit_of_mem_significant {d : Decimal} {c : Char} (h : c ∈ (significant d).1) :
    c.isDigit = true := by
  unfold significant at h
  split at h
  · rw [List.mem_singleton.1 h]
    decide
  · have hdigits : c ∈ Nat.toDigits 10 d.coefficient :=
      List.mem_reverse.1 ((List.dropWhile_sublist _).subset (List.mem_reverse.1 h))
    exact Nat.isDigit_of_mem_toDigits (by decide) (by decide) hdigits

/-- The point of a positional number stands behind a zero, in front of its fraction or, in a layout
that asks for it, behind a whole number. -/
theorem point_mem_positional_iff (layout : Layout) {digits : List Char} (hne : digits ≠ [])
    (hdigits : ∀ c ∈ digits, c.isDigit = true) (point : Int) :
    '.' ∈ layout.positional digits point ↔
      point < digits.length ∨ layout.wholePoint = true := by
  have hlength : 0 < digits.length := List.length_pos_iff.2 hne
  have hpoint : '.' ∉ digits := fun h => absurd (hdigits '.' h) (by decide)
  unfold positional
  split
  · exact iff_of_true (by simp) (.inl (by omega))
  · split
    · have hnot : ¬ point < digits.length := by omega
      cases layout.wholePoint <;> simp [hpoint, hnot]
    · exact iff_of_true (by simp) (.inl (by omega))

theorem exponent_notMem_positional (layout : Layout) {digits : List Char}
    (hdigits : ∀ c ∈ digits, c.isDigit = true) (point : Int) :
    'e' ∉ layout.positional digits point := by
  have hexponent : 'e' ∉ digits := fun h => absurd (hdigits 'e' h) (by decide)
  unfold positional
  split
  · simp [hexponent]
  · split
    · cases layout.wholePoint <;> simp [hexponent]
    · have htake : 'e' ∉ digits.take point.toNat := fun h => hexponent (List.mem_of_mem_take h)
      have hdrop : 'e' ∉ digits.drop point.toNat := fun h => hexponent (List.mem_of_mem_drop h)
      simp [htake, hdrop]

/-- **A decimal has an exponent exactly if its own is outside the range that the layout writes
positionally.** -/
theorem exponent_mem_writeDecimal_iff (layout : Layout) (d : Decimal) :
    'e' ∈ layout.writeDecimal d ↔
      (significant d).2 - 1 < layout.leastPositional ∨
        layout.pastPositional ≤ (significant d).2 - 1 := by
  have hbody : ∀ body : List Char,
      'e' ∈ (if d.negative then '-' :: body else body) ↔ 'e' ∈ body := by
    intro body
    split <;> simp
  simp only [writeDecimal, hbody]
  split
  · rename_i hrange
    refine iff_of_false ?_ (by omega)
    exact exponent_notMem_positional layout (fun _ => isDigit_of_mem_significant) _
  · rename_i hrange
    exact iff_of_true (by simp [scientific]) (by omega)

example : Layout.message.writeDecimal ⟨false, 15, -6⟩ = "1.5e-05".toList := by decide
example : Layout.json.writeDecimal ⟨false, 1, -5⟩ = "0.00001".toList := by decide

end Layout

namespace Binary64

/-- The value in a message, with the fewest digits that read back. -/
def text (x : Binary64) : String := Layout.message.write Magnitude.shortest x

/-- The value in a JSON document, with the fewest digits that read back. -/
def jsonText (x : Binary64) : String := Layout.json.write Magnitude.shortest x

/-- The value in a table, rounded to six significant digits. -/
def tableText (x : Binary64) : String :=
  Layout.table.write (fun m => m.roundTo (m.point - 6)) x

/-- The value with two places, the last one rounded half to even. -/
def twoPlaces : Binary64 → String
  | .nan => "nan"
  | .infinite true => "-inf"
  | .infinite false => "inf"
  | .finite x =>
    let hundredths := roundHalfEven (x.magnitude.units * 100) unitsPerOne
    let digits := Nat.toDigits 10 (hundredths / 100) ++
      '.' :: Text.padZeros 2 (Nat.toDigits 10 (hundredths % 100))
    String.ofList (if x.negative then '-' :: digits else digits)

end Binary64

end NetTimeline
