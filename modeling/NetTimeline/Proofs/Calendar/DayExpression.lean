import Mathlib
import NetTimeline.Calendar.Expression

/-!
# Expressions for a day

`today`, `yesterday` and `5 days ago` name a day by its distance from the present. The first two
stand for amounts of days, so all of them are read from the same pieces: a number, a word for days
and the word `ago`. What these pieces say depends on the number alone. It is the moment so many days
before the present, and where that is not in the years 1 to 9999, the expression says nothing: the
word `ago` has no place in a date of the calendar.

A day has more spellings than these: `1 day ago` has the other word for days, and any letter may be
a capital one. Expressions are read in small letters, so the spellings of a day all say the same.

Principal results:

* `readRelative?_ago` — the pieces say the moment so many days before the present;
* `DaySpelling.exists_pieces` — each spelling of a day is read from such pieces;
* `readMoment_day` — what a spelling of a day says, or that it says nothing;
* `DayExpression.spelling` — the expressions for a day are among its spellings.
-/

set_option autoImplicit false

namespace NetTimeline.Calendar

/-- The expressions that name the day so many days before the present. -/
inductive DayExpression : String → Nat → Prop where
  | today : DayExpression "today" 0
  | yesterday : DayExpression "yesterday" 1
  | daysAgo {digits : List Char} (hsome : digits ≠ []) (hdigits : digits.all Char.isDigit = true) :
    DayExpression (String.ofList digits ++ " days ago") (digitsValue digits)

/-! ## Amounts of days -/

namespace Amounts

theorem count_days (n : Nat) (unit : TimeUnit) :
    count [(.day, ⟨n, 0⟩)] unit = if unit = .day then ⟨n, 0⟩ else ⟨0, 0⟩ := by
  cases unit <;> rfl

/-- So many days are so many times the microseconds of a day. -/
theorem micros_days (n : Nat) : micros [(.day, ⟨n, 0⟩)] = n * microsPerDay := by
  have hdecimals : TimeUnit.fixed.foldr (fun unit => max (count [(.day, ⟨n, 0⟩)] unit).decimals) 0 =
      0 := by
    unfold TimeUnit.fixed
    simp only [List.foldr_cons, List.foldr_nil, count_days, reduceCtorEq, if_true, if_false,
      Nat.max_self]
  have hscaled (coefficient : Nat) : Count.scaled ⟨coefficient, 0⟩ 0 = coefficient := by
    unfold Count.scaled
    exact Nat.mul_one coefficient
  -- the lengths stay closed: the kernel would count in the microseconds of a day one by one
  have hsum (length : TimeUnit → Nat) : TimeUnit.fixed.foldr (fun unit sum =>
      (count [(.day, ⟨n, 0⟩)] unit).scaled 0 * length unit + sum) 0 = n * length .day := by
    unfold TimeUnit.fixed
    simp only [List.foldr_cons, List.foldr_nil, count_days, reduceCtorEq, if_true, if_false,
      hscaled, Nat.zero_mul, Nat.zero_add, Nat.add_zero]
  have hround : roundHalfEven (n * microsPerDay * 1) 1 = n * microsPerDay :=
    roundHalfEven_mul (n * microsPerDay) Nat.one_pos
  unfold micros
  dsimp only
  rw [hdecimals, hsum]
  rw [Nat.mul_one] at hround
  exact hround

theorem distance?_days (n : Nat) :
    distance? [(.day, ⟨n, 0⟩)] = some ⟨0, (n * microsPerDay : Nat)⟩ := by
  have hwhole : Count.whole? ⟨0, 0⟩ = some 0 := rfl
  unfold distance?
  rw [micros_days, count_days, count_days, if_neg (by decide), if_neg (by decide), hwhole]
  rfl

end Amounts

/-! ## The pieces -/

/-- The pieces of an amount of days in the past. -/
def agoPieces (digits word : List Char) : List Piece :=
  [.number digits, .mark ' ', .word word, .mark ' ', .word "ago".toList]

/-- The words for days in an amount of them. -/
def IsDayWord (word : List Char) : Prop := word = "day".toList ∨ word = "days".toList

section Pieces

variable {digits word : List Char}

theorem readSinceEpoch?_ago : readSinceEpoch? (agoPieces digits word) = none := by
  simp [readSinceEpoch?, agoPieces]

theorem readAmount?_ago (hdigits : digits.all Char.isDigit = true) (hword : IsDayWord word) :
    readAmount? (agoPieces digits word) =
      some ((.day, ⟨digitsValue digits, 0⟩), [.mark ' ', .word "ago".toList]) := by
  have hdecimals : spanDecimals (agoPieces digits word).tail =
      ([], (agoPieces digits word).tail) := rfl
  unfold agoPieces readAmount?
  unfold agoPieces at hdecimals
  simp only [List.tail_cons] at hdecimals
  simp only [hdecimals, hdigits, List.append_nil]
  rcases hword with rfl | rfl <;> rfl

theorem spanAmounts_ago (hdigits : digits.all Char.isDigit = true) (hword : IsDayWord word) :
    spanAmounts 0 (agoPieces digits word) =
      ([(.day, ⟨digitsValue digits, 0⟩)], [.mark ' ', .word "ago".toList]) := by
  have hamount := readAmount?_ago hdigits hword
  unfold agoPieces at hamount ⊢
  unfold spanAmounts
  rw [hamount]
  rfl

theorem isAhead_ago (hword : IsDayWord word) : isAhead (agoPieces digits word) = false := by
  rcases hword with rfl | rfl <;> rfl

theorem isRelative_ago (hword : IsDayWord word) :
    (agoPieces digits word).all isRelativePiece = true := by
  rcases hword with rfl | rfl <;> rfl

/-- **An amount of days in the past is the moment so many days before the present.** -/
theorem readRelative?_ago (present : Moment) (hdigits : digits.all Char.isDigit = true)
    (hword : IsDayWord word) :
    readRelative? present (agoPieces digits word) =
      Moment.ofMicros? (present.micros - digitsValue digits * microsPerDay) := by
  have hclock : readLoneClock? ([.mark ' ', .word "ago".toList].filter
      fun piece => !isDirection piece) = none := rfl
  have hshift : present.shift? (Distance.neg ⟨0, (digitsValue digits * microsPerDay : Nat)⟩) =
      Moment.ofMicros? (present.micros - digitsValue digits * microsPerDay) := by
    have hdistance : Distance.neg ⟨0, (digitsValue digits * microsPerDay : Nat)⟩ =
        ⟨0, -(digitsValue digits * microsPerDay : Nat)⟩ := rfl
    rw [hdistance, Moment.shift?_micros, Int.natCast_mul]
    rfl
  unfold readRelative?
  simp only [spanAmounts_ago hdigits hword, isRelative_ago hword, isAhead_ago hword, hclock,
    Amounts.distance?_days, Option.bind_eq_bind, Option.bind_some, hshift, List.isEmpty_cons,
    Bool.not_true, Bool.or_self, Bool.false_eq_true, if_false]
  exact Option.bind_fun_some _

/-- In a date of the calendar such pieces have no place. -/
theorem readDateTime?_ago (date : Date) (hdigits : digits.all Char.isDigit = true)
    (hword : IsDayWord word) : readDateTime? date (agoPieces digits word) = none := by
  have hcolon : digits.contains ':' = false := by
    rw [Bool.eq_false_iff]
    intro h
    have hdigit : Char.isDigit ':' = true :=
      List.all_eq_true.1 hdigits ':' (List.contains_iff_mem.1 h)
    cases hdigit
  have hclock : takeClock? (agoPieces digits word) = some (none, agoPieces digits word) := by
    unfold agoPieces takeClock?
    simp only [hcolon]
    rcases hword with rfl | rfl <;> rfl
  have hparts : (agoPieces digits word).foldlM DateParts.take? .empty = none := by
    unfold agoPieces
    rw [List.foldlM_cons]
    cases hnumber : DateParts.empty.take? (.number digits) with
    | none => rfl
    | some parts => rcases hword with rfl | rfl <;> rfl
  unfold readDateTime?
  simp only [hclock, hparts, Option.bind_eq_bind, Option.bind_some, Option.bind_none]

end Pieces

/-! ## Letter case -/

theorem toNat_lt_of_isAlphanum {c : Char} (h : c.isAlphanum = true) : c.toNat < 128 := by
  simp only [Char.isAlphanum, Char.isAlpha, Char.isUpper, Char.isLower, Char.isDigit, ge_iff_le,
    UInt32.le_iff_toNat_le, Bool.or_eq_true, Bool.and_eq_true, decide_eq_true_eq] at h
  have hval : c.toNat = c.val.toNat := rfl
  have hlower : 'z'.val.toNat = 122 := rfl
  have hupper : 'Z'.val.toNat = 90 := rfl
  have hdigit : '9'.val.toNat = 57 := rfl
  omega

/-- Only letters have a case. -/
theorem toLower_of_not_isAlpha {c : Char} (h : c.isAlpha = false) : c.toLower = c := by
  rw [Char.isAlpha, Bool.or_eq_false_iff] at h
  exact Char.toLower_eq_of_not_isUpper (Bool.eq_false_iff.1 h.1)

theorem not_isAlpha_of_isDigit {c : Char} (h : c.isDigit = true) : c.isAlpha = false := by
  simp only [Char.isDigit, ge_iff_le, UInt32.le_iff_toNat_le, Bool.and_eq_true,
    decide_eq_true_eq] at h
  simp only [Char.isAlpha, Char.isUpper, Char.isLower, ge_iff_le, UInt32.le_iff_toNat_le,
    Bool.or_eq_false_iff, Bool.and_eq_false_iff, decide_eq_false_iff_not]
  have hdigit : '9'.val.toNat = 57 := rfl
  have hupper : 'A'.val.toNat = 65 := rfl
  have hlower : 'a'.val.toNat = 97 := rfl
  omega

/-- A text without letters is the one in small letters. -/
theorem eq_of_map_toLower {cs lower : List Char} (h : cs.map Char.toLower = lower)
    (hlower : ∀ c ∈ lower, c.isAlpha = false) : cs = lower := by
  rw [← h] at hlower ⊢
  refine (List.map_id cs).symm.trans (List.map_congr_left fun c hc => ?_)
  have hletter : c.isAlpha = false :=
    c.isAlpha_toLower_eq_isAlpha.symm.trans (hlower c.toLower (List.mem_map_of_mem hc))
  exact (toLower_of_not_isAlpha hletter).symm

/-- Whether a character is read as it stands. -/
def IsPlain (c : Char) : Prop := c.isAlphanum = true ∨ c = ' '

instance (c : Char) : Decidable (IsPlain c) := inferInstanceAs (Decidable (_ ∨ _))

/-- What is plain in small letters is an ASCII character. -/
theorem toNat_lt_of_isPlain_toLower {c : Char} (h : IsPlain c.toLower) : c.toNat < 128 := by
  cases hletter : c.isAlpha with
  | true => exact toNat_lt_of_isAlphanum (by rw [Char.isAlphanum, hletter, Bool.true_or])
  | false =>
    rw [toLower_of_not_isAlpha hletter] at h
    rcases h with h | rfl
    · exact toNat_lt_of_isAlphanum h
    · decide

/-- **What is plain in small letters is read in small letters.** The ASCII characters are tried
out. -/
theorem read_toLower {c : Char} (h : IsPlain c.toLower) :
    (Text.asciiDigits [c]).map plainChar = [c.toLower] := by
  have hall : ∀ n < 128, IsPlain (Char.ofNat n).toLower →
      (Text.asciiDigits [Char.ofNat n]).map plainChar = [(Char.ofNat n).toLower] := by
    decide +kernel
  have hread := hall c.toNat (toNat_lt_of_isPlain_toLower h)
  rw [Char.ofNat_toNat] at hread
  exact hread h

/-! ## Spellings -/

/-- The texts that tell the day so many days before the present, in small letters. -/
inductive DayText : List Char → Nat → Prop where
  | today : DayText "today".toList 0
  | yesterday : DayText "yesterday".toList 1
  | ago {digits word : List Char} (hsome : digits ≠ []) (hdigits : digits.all Char.isDigit = true)
      (hword : IsDayWord word) :
    DayText (digits ++ ' ' :: (word ++ " ago".toList)) (digitsValue digits)

/-- The spellings of that day, in letters of either case. -/
def DaySpelling (text : String) (n : Nat) : Prop := DayText (text.toList.map Char.toLower) n

/-- An expression for a day is one of its spellings. -/
theorem DayExpression.spelling {text : String} {n : Nat} (h : DayExpression text n) :
    DaySpelling text n := by
  unfold DaySpelling
  cases h with
  | today => exact .today
  | yesterday => exact .yesterday
  | @daysAgo digits hsome hdigits =>
    have hlower : digits.map Char.toLower = digits :=
      (List.map_congr_left fun c hc => toLower_of_not_isAlpha
        (not_isAlpha_of_isDigit (List.all_eq_true.1 hdigits c hc))).trans (List.map_id digits)
    have htext : (String.ofList digits ++ " days ago").toList.map Char.toLower =
        digits ++ ' ' :: ("days".toList ++ " ago".toList) := by
      rw [String.toList_append, String.toList_ofList, List.map_append, hlower]
      rfl
    rw [htext]
    exact .ago hsome hdigits (.inr rfl)

namespace DayText

variable {cs : List Char} {n : Nat}

theorem isPlain (h : DayText cs n) : ∀ c ∈ cs, IsPlain c := by
  cases h with
  | today => exact List.all_iff_forall_prop.1 (by decide)
  | yesterday => exact List.all_iff_forall_prop.1 (by decide)
  | @ago digits word hsome hdigits hword =>
    have htail : ∀ c ∈ ' ' :: (word ++ " ago".toList), IsPlain c := by
      rcases hword with rfl | rfl <;> exact List.all_iff_forall_prop.1 (by decide)
    intro c hc
    rcases List.mem_append.1 hc with hc | hc
    · have hdigit : c.isDigit = true := List.all_eq_true.1 hdigits c hc
      unfold IsPlain Char.isAlphanum
      rw [hdigit, Bool.or_true]
      exact .inl rfl
    · exact htail c hc

/-- Such a text starts and ends with a letter or a digit. -/
theorem exists_ends (h : DayText cs n) :
    ∃ first middle last, cs = first :: (middle ++ [last]) ∧
      first ≠ ' ' ∧ last ≠ ' ' ∧ last ≠ ':' := by
  cases h with
  | today => exact ⟨'t', "oda".toList, 'y', by decide⟩
  | yesterday => exact ⟨'y', "esterda".toList, 'y', by decide⟩
  | @ago digits word hsome hdigits hword =>
    obtain ⟨first, others, rfl⟩ := List.exists_cons_of_ne_nil hsome
    have hfirst : first ≠ ' ' := by
      have hdigit : first.isDigit = true := List.all_eq_true.1 hdigits first List.mem_cons_self
      rintro rfl
      cases hdigit
    refine ⟨first, others ++ ' ' :: (word ++ " ag".toList), 'o', ?_, hfirst, by decide, by decide⟩
    simp

end DayText

/-- Plain characters are read in small letters. -/
theorem read_map_toLower {cs : List Char} (h : ∀ c ∈ cs.map Char.toLower, IsPlain c) :
    (Text.asciiDigits cs).map plainChar = cs.map Char.toLower := by
  induction cs with
  | nil => rfl
  | cons c cs ih =>
    obtain ⟨hc, hcs⟩ := List.forall_mem_cons.1 h
    have hsplit : (Text.asciiDigits (c :: cs)).map plainChar =
        (Text.asciiDigits [c]).map plainChar ++ (Text.asciiDigits cs).map plainChar := rfl
    rw [hsplit, read_toLower hc, ih hcs]
    rfl

/-- A text without blanks around it, and without a colon at its end, is read whole. -/
theorem plainText_of_ends {s : String} {first last : Char} {middle : List Char}
    (hread : (Text.asciiDigits s.toList).map plainChar = first :: (middle ++ [last]))
    (hfirst : first ≠ ' ') (hlast : last ≠ ' ') (hcolon : last ≠ ':') :
    plainText s = first :: (middle ++ [last]) := by
  have hreverse : (first :: (middle ++ [last])).reverse = last :: (middle.reverse ++ [first]) := by
    simp
  have htrim : Text.trim isBlankChar (first :: (middle ++ [last])) =
      first :: (middle ++ [last]) := by
    unfold Text.trim
    rw [List.dropWhile_cons_of_neg (by simpa [isBlankChar] using hfirst), hreverse,
      List.dropWhile_cons_of_neg (by simpa [isBlankChar] using hlast), ← hreverse,
      List.reverse_reverse]
  have hcolons : (first :: (middle ++ [last])).reverse.dropWhile (· = ':') =
      (first :: (middle ++ [last])).reverse := by
    rw [hreverse, List.dropWhile_cons_of_neg (by simpa using hcolon)]
  unfold plainText
  simp only [hread, htrim, hcolons, List.reverse_reverse]

/-- A spelling of a day is read in small letters. -/
theorem DaySpelling.plainText_eq {text : String} {n : Nat} (h : DaySpelling text n) :
    plainText text = text.toList.map Char.toLower := by
  have hread := read_map_toLower (DayText.isPlain h)
  obtain ⟨first, middle, last, hends, hfirst, hlast, hcolon⟩ := DayText.exists_ends h
  rw [hends] at hread ⊢
  exact plainText_of_ends hread hfirst hlast hcolon

/-! ## The pieces of a text -/

/-- Digits make up one number, if the text does not go on with one. -/
theorem Piece.scan_digits {digits rest : List Char} (hsome : digits ≠ [])
    (hdigits : digits.all Char.isDigit = true)
    (hrest : ∀ text pieces, scan rest ≠ .number text :: pieces) :
    scan (digits ++ rest) = .number digits :: scan rest := by
  induction digits with
  | nil => exact absurd rfl hsome
  | cons c cs ih =>
    rw [List.all_cons, Bool.and_eq_true] at hdigits
    obtain ⟨hdigit, hdigits⟩ := hdigits
    have hnumber : isNumberChar c = true := by
      unfold isNumberChar
      rw [hdigit, Bool.true_or]
    rw [List.cons_append, scan, if_pos hnumber]
    cases cs with
    | nil =>
      rw [List.nil_append]
      split
      · rename_i text pieces hscan
        exact absurd hscan (hrest text pieces)
      · rfl
    | cons d ds =>
      rw [ih (List.cons_ne_nil d ds) hdigits]

theorem splitZoneAt?_eq_none {front back : List Char} (h : readZone? back = none) :
    splitZoneAt? (front ++ back) back.length = none := by
  unfold splitZoneAt?
  rw [List.length_append, Nat.add_sub_cancel, List.take_left, List.drop_left, h]
  dsimp only
  split <;> rfl

section Ago

variable {digits word : List Char}

theorem read_ago (hsome : digits ≠ []) (hdigits : digits.all Char.isDigit = true)
    (hword : IsDayWord word) :
    Piece.read (digits ++ ' ' :: (word ++ " ago".toList)) = agoPieces digits word := by
  have hscan : Piece.scan (' ' :: (word ++ " ago".toList)) =
      [.mark ' ', .word word, .mark ' ', .word "ago".toList] := by
    rcases hword with rfl | rfl <;> decide
  have hstops : ∀ text pieces,
      Piece.scan (' ' :: (word ++ " ago".toList)) ≠ .number text :: pieces := by
    intro text pieces h
    rw [hscan] at h
    cases h
  unfold Piece.read
  rw [Piece.scan_digits hsome hdigits hstops, hscan]
  rcases hword with rfl | rfl <;> rfl

theorem splitZone?_ago (digits : List Char) (hword : IsDayWord word) :
    splitZone? (digits ++ ' ' :: (word ++ " ago".toList)) = none := by
  have hnone (front back : List Char) (hsplit : ' ' :: (word ++ " ago".toList) = front ++ back)
      (hback : readZone? back = none) :
      splitZoneAt? (digits ++ ' ' :: (word ++ " ago".toList)) back.length = none := by
    rw [hsplit, ← List.append_assoc]
    exact splitZoneAt?_eq_none hback
  have hsix : splitZoneAt? (digits ++ ' ' :: (word ++ " ago".toList)) 6 = none := by
    rcases hword with rfl | rfl
    · exact hnone " d".toList "ay ago".toList (by decide) (by decide)
    · exact hnone " da".toList "ys ago".toList (by decide) (by decide)
  have hthree : splitZoneAt? (digits ++ ' ' :: (word ++ " ago".toList)) 3 = none :=
    hnone (' ' :: (word ++ [' '])) "ago".toList (by simp) (by decide)
  have hone : splitZoneAt? (digits ++ ' ' :: (word ++ " ago".toList)) 1 = none :=
    hnone (' ' :: (word ++ " ag".toList)) "o".toList (by simp) (by decide)
  unfold splitZone?
  simp only [List.findSome?_cons, hsix, hthree, hone, List.findSome?_nil]

end Ago

/-- **Each spelling of a day is an amount of days in the past**, without a zone. -/
theorem DaySpelling.exists_pieces {text : String} {n : Nat} (h : DaySpelling text n) :
    ∃ digits word, digits.all Char.isDigit = true ∧ IsDayWord word ∧ digitsValue digits = n ∧
      Piece.read (plainText text) = agoPieces digits word ∧ splitZone? (plainText text) = none := by
  rw [h.plainText_eq]
  unfold DaySpelling at h
  generalize text.toList.map Char.toLower = cs at h
  cases h with
  | today => exact ⟨['0'], "day".toList, rfl, .inl rfl, rfl, by decide, by decide⟩
  | yesterday =>
    exact ⟨['1'], "day".toList, rfl, .inl rfl, rfl, by decide, by decide⟩
  | @ago digits word hsome hdigits hword =>
    exact ⟨digits, word, hdigits, hword, rfl, read_ago hsome hdigits hword,
      splitZone?_ago digits hword⟩

/-! ## The moment -/

theorem Moment.ofMicros?_eq_some {micros : Int} {moment : Moment} :
    Moment.ofMicros? micros = some moment ↔ moment.micros = micros := by
  unfold Moment.ofMicros?
  constructor
  · intro h
    split at h
    · rw [← Option.some.inj h]
    · cases h
  · rintro rfl
    rw [dif_pos ⟨moment.first_le, moment.lt_past⟩]

/-- **What a spelling of a day says**: the moment so many days before the present. If that is not in
the years 1 to 9999, it says nothing. -/
theorem readMoment_day {text : String} {n : Nat} (h : DaySpelling text n) (present : Moment) :
    readMoment present text =
      (Moment.ofMicros? (present.micros - n * microsPerDay)).elim (.error .unreadable) .ok := by
  obtain ⟨digits, word, hdigits, hword, rfl, hpieces, hzone⟩ := h.exists_pieces
  unfold readMoment
  simp only [hpieces, readSinceEpoch?_ago, Option.none_or, readRelative?_ago present hdigits hword]
  cases hmoment : Moment.ofMicros? (present.micros - digitsValue digits * microsPerDay) with
  | some moment => rfl
  | none =>
    unfold readCalendar
    simp only [hzone, Option.getD_none, hpieces, readDateTime?_ago present.date hdigits hword]
    rfl

theorem DaySpelling.readMoment_iff {text : String} {n : Nat} (h : DaySpelling text n)
    {present moment : Moment} :
    readMoment present text = .ok moment ↔ moment.micros = present.micros - n * microsPerDay := by
  rw [readMoment_day h present, ← Moment.ofMicros?_eq_some]
  cases Moment.ofMicros? (present.micros - n * microsPerDay) with
  | none => simp
  | some other => simp

theorem readMoment_day_iff {text : String} {n : Nat} (h : DayExpression text n)
    {present moment : Moment} :
    readMoment present text = .ok moment ↔ moment.micros = present.micros - n * microsPerDay :=
  h.spelling.readMoment_iff

end NetTimeline.Calendar
