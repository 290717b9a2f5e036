import NetTimeline.Calendar.Clock
import NetTimeline.Calendar.Piece

/-!
# Dates relative to the present

A relative date gives amounts of time: so many seconds, minutes, hours, days, weeks, months or
years, in any order. Of two amounts in one unit the later counts. With the word `in` in front of an
amount they lie ahead, otherwise behind. Years and months are gone first, to the same day of the
month or to its last one; they have to be whole numbers. Whatever else is written is a time of day,
which replaces that of the present, or has no meaning.

This stands for the relative dates (`freshness_date_parser`) of the library dateparser.

Main statements: `Moment.shift?_micros` — a distance without months is added to the microseconds;
`others_sublist` — what is no amount is kept, in its order.
-/

set_option autoImplicit false

namespace NetTimeline.Calendar

/-! ## Distances -/

/-- A distance in time: whole months, and microseconds. -/
structure Distance where
  months : Int
  micros : Int
  deriving DecidableEq, Repr

def Distance.neg (distance : Distance) : Distance := ⟨-distance.months, -distance.micros⟩

/-- The moment some months away, on the same day of the month or on its last one. -/
def Moment.addMonths? (moment : Moment) (months : Int) : Option Moment :=
  Moment.ofDayTime? (moment.date.addMonths months).toDays moment.timeOfDay

/-- The moment at a distance: first the months are gone, then the microseconds. -/
def Moment.shift? (moment : Moment) (distance : Distance) : Option Moment := do
  let moved ← if distance.months = 0 then some moment else moment.addMonths? distance.months
  Moment.ofMicros? (moved.micros + distance.micros)

theorem Moment.shift?_micros (moment : Moment) (micros : Int) :
    moment.shift? ⟨0, micros⟩ = Moment.ofMicros? (moment.micros + micros) := rfl

/-! ## Amounts of time -/

/-- A unit of time. -/
inductive TimeUnit where
  | second
  | minute
  | hour
  | day
  | week
  | month
  | year
  deriving DecidableEq, Repr

namespace TimeUnit

/-- The names of the units. -/
def names : List (List Char × TimeUnit) :=
  [("second".toList, .second), ("minute".toList, .minute), ("hour".toList, .hour),
    ("day".toList, .day), ("week".toList, .week), ("month".toList, .month), ("year".toList, .year)]

/-- The unit that a word names, in the singular or the plural. -/
def ofWord? (word : List Char) : Option TimeUnit :=
  (names.find? fun name => name.1 == word || name.1 ++ ['s'] == word).map Prod.snd

/-- The length of a unit in microseconds. Months and years have no fixed one. -/
def micros : TimeUnit → Nat
  | .second => microsPerSecond
  | .minute => 60 * microsPerSecond
  | .hour => 3600 * microsPerSecond
  | .day => microsPerDay
  | .week => 7 * microsPerDay
  | .month | .year => 0

/-- The units with a fixed length. -/
def fixed : List TimeUnit := [.second, .minute, .hour, .day, .week]

end TimeUnit

/-- A decimal number: a coefficient, so many digits of which stand behind the point. -/
structure Count where
  coefficient : Nat
  decimals : Nat
  deriving DecidableEq, Repr

namespace Count

/-- The coefficient with so many digits behind the point, if that are not fewer. -/
def scaled (count : Count) (decimals : Nat) : Nat :=
  count.coefficient * Nat.pow 10 (decimals - count.decimals)

/-- The number, if it is whole. -/
def whole? (count : Count) : Option Nat :=
  if count.coefficient % Nat.pow 10 count.decimals = 0 then
    some (count.coefficient / Nat.pow 10 count.decimals)
  else none

end Count

/-- Amounts of time, a later one in front of those before it. -/
abbrev Amounts := List (TimeUnit × Count)

namespace Amounts

/-- How much there is of a unit. -/
def count (amounts : Amounts) (unit : TimeUnit) : Count := (amounts.lookup unit).getD ⟨0, 0⟩

/-- The microseconds of the units with a fixed length, rounded once. -/
def micros (amounts : Amounts) : Nat :=
  let decimals := TimeUnit.fixed.foldr (fun unit => max (amounts.count unit).decimals) 0
  roundHalfEven
    (TimeUnit.fixed.foldr (fun unit sum => (amounts.count unit).scaled decimals * unit.micros + sum)
      0)
    (Nat.pow 10 decimals)

/-- The distance that the amounts make up. -/
def distance? (amounts : Amounts) : Option Distance := do
  let years ← (amounts.count .year).whole?
  let months ← (amounts.count .month).whole?
  return ⟨(12 * years + months : Nat), amounts.micros⟩

end Amounts

/-! ## Reading -/

/-- The digits behind a decimal mark, if the pieces go on with them, and what follows. -/
def spanDecimals : List Piece → List Char × List Piece
  | .mark c :: .number digits :: rest =>
    if (c = '.' || c = ',') && digits.all Char.isDigit then (digits, rest)
    else ([], .mark c :: .number digits :: rest)
  | rest => ([], rest)

/-- An amount of time at the front, and what follows it. -/
def readAmount? : List Piece → Option ((TimeUnit × Count) × List Piece)
  | .number whole :: rest =>
    let (decimals, behind) := spanDecimals rest
    match whole.all Char.isDigit, behind.dropWhile Piece.isBlank with
    | true, .word word :: behind =>
      (TimeUnit.ofWord? word).map fun unit =>
        ((unit, ⟨digitsValue (whole ++ decimals), decimals.length⟩), behind)
    | _, _ => none
  | _ => none

/-- The amounts of time among the pieces, and the other pieces. The first `skipped` pieces belong to
an amount in front of them. -/
def spanAmounts (skipped : Nat) : List Piece → Amounts × List Piece
  | [] => ([], [])
  | piece :: rest =>
    match skipped, readAmount? (piece :: rest) with
    | skipped + 1, _ => spanAmounts skipped rest
    | 0, some (amount, behind) =>
      let (amounts, others) := spanAmounts (rest.length - behind.length) rest
      (amounts ++ [amount], others)
    | 0, none =>
      let (amounts, others) := spanAmounts 0 rest
      (amounts, piece :: others)

theorem others_sublist (skipped : Nat) (pieces : List Piece) :
    (spanAmounts skipped pieces).2.Sublist pieces := by
  induction pieces generalizing skipped with
  | nil => simp [spanAmounts]
  | cons piece rest ih =>
    unfold spanAmounts
    split
    · exact (ih _).cons piece
    · exact (ih _).cons piece
    · exact (ih _).cons_cons piece

/-- Whether a word may stand in a relative date. -/
def isRelativeWord (word : List Char) : Bool :=
  word = "in".toList || word = "ago".toList || (TimeUnit.ofWord? word).isSome ||
    (Half.ofWord? word).isSome

/-- Whether a piece may stand in a relative date. -/
def isRelativePiece : Piece → Bool
  | .word word => isRelativeWord word
  | _ => true

/-- Whether a piece tells a direction. -/
def isDirection (piece : Piece) : Bool :=
  piece = .word "in".toList || piece = .word "ago".toList

/-- Whether a piece names a unit in the singular. -/
def isSingular (piece : Piece) : Bool :=
  TimeUnit.names.any fun (name, _) => piece = .word name

/-- Whether the word `in` stands in front of an amount. -/
def leadsAhead : List Piece → Bool
  | [] => false
  | piece :: rest =>
    (piece = .word "in".toList && (readAmount? (rest.dropWhile Piece.isBlank)).isSome) ||
      leadsAhead rest

/-- Whether the amounts lie ahead. With a unit in the singular, `in` may stand anywhere. -/
def isAhead (pieces : List Piece) : Bool :=
  leadsAhead pieces || (pieces.contains (.word "in".toList) && pieces.any isSingular)

/-- The time of day that pieces make up. -/
def readLoneClock? (pieces : List Piece) : Option Nat :=
  let trimmed := ((pieces.dropWhile Piece.isBlank).reverse.dropWhile Piece.isBlank).reverse
  match trimmed with
  | .number number :: rest =>
    let (fraction, behind) := match rest with
      | .mark '.' :: .number fraction :: behind => (some fraction, behind)
      | _ => (none, rest)
    match behind.dropWhile Piece.isBlank with
    | [] => readClock? number fraction none
    | [.word word] => (Half.ofWord? word).bind fun half => readClock? number fraction (some half)
    | _ => none
  | _ => none

/-- The moment of a relative date. -/
def readRelative? (present : Moment) (pieces : List Piece) : Option Moment :=
  let (amounts, others) := spanAmounts 0 pieces
  if amounts.isEmpty || !pieces.all isRelativePiece then none
  else do
    let distance ← amounts.distance?
    let moment ← present.shift? (if isAhead pieces then distance else distance.neg)
    match readLoneClock? (others.filter fun piece => !isDirection piece) with
    | some time => Moment.ofDayTime? moment.dayNumber time
    | none => return moment

end NetTimeline.Calendar
