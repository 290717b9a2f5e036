import Mathlib.Tactic.ByContra
import NetTimeline.Calendar.Moment

/-!
# The order of dates and moments

Dates are compared as they are written: by the year, then the month, then the day. Moments are
compared by their dates, and on one day by the time of day. Both orders are those of the numbers
behind them, the days and the microseconds since 1970, because the conversion to a date goes on from
month to month and from year to year without a step back, through leap years and centuries.

Principal results:

* `Date.ofDays_lt_iff`, `Date.ofDays_le_iff`, `Date.ofDays_inj` — dates are in the order of their
  days, and each day has a date of its own;
* `Moment.le_iff_micros` — moments are in the order of their microseconds.
-/

set_option autoImplicit false

namespace NetTimeline.Calendar

/-! ## Years -/

theorem daysBeforeYear_mono {earlier later : Int} (h : earlier ≤ later) :
    daysBeforeYear earlier ≤ daysBeforeYear later := by
  unfold daysBeforeYear
  dsimp only
  omega

/-- A later day is not in an earlier year. -/
theorem yearOfDay_mono {m n : Int} (h : m ≤ n) : yearOfDay m ≤ yearOfDay n := by
  by_contra hlt
  have hyears : yearOfDay n + 1 ≤ yearOfDay m := by omega
  have hdays : daysBeforeYear (yearOfDay n + 1) ≤ daysBeforeYear (yearOfDay m) :=
    daysBeforeYear_mono hyears
  have hn := lt_daysBeforeYear_yearOfDay n
  have hm := daysBeforeYear_yearOfDay_le m
  omega

/-! ## Months -/

theorem le_monthAndDay (month : Nat) (lengths : List Nat) (n : Nat) :
    month ≤ (monthAndDay month lengths n).1 := by
  induction lengths generalizing month n with
  | nil => exact Nat.le_refl month
  | cons length lengths ih =>
    unfold monthAndDay
    split
    · exact Nat.le_refl month
    · exact Nat.le_of_succ_le (ih (month + 1) (n - length))

/-- A later day of the year is in a later month, or in the same one on a later day. -/
theorem monthAndDay_lt (month : Nat) (lengths : List Nat) {m n : Nat} (h : m < n) :
    (monthAndDay month lengths m).1 < (monthAndDay month lengths n).1 ∨
      (monthAndDay month lengths m).1 = (monthAndDay month lengths n).1 ∧
        (monthAndDay month lengths m).2 < (monthAndDay month lengths n).2 := by
  induction lengths generalizing month m n with
  | nil => exact .inr ⟨rfl, Nat.succ_lt_succ h⟩
  | cons length lengths ih =>
    unfold monthAndDay
    by_cases hn : n < length
    · -- both days are in this month
      have hm : m < length := Nat.lt_trans h hn
      rw [if_pos hm, if_pos hn]
      exact .inr ⟨rfl, Nat.succ_lt_succ h⟩
    · rw [if_neg hn]
      by_cases hm : m < length
      · rw [if_pos hm]
        exact .inl (le_monthAndDay (month + 1) lengths (n - length))
      · rw [if_neg hm]
        exact ih (month + 1) (by omega)

/-! ## Dates -/

namespace Date

instance : LT Date :=
  ⟨fun a b => a.year < b.year ∨
    a.year = b.year ∧ (a.month < b.month ∨ a.month = b.month ∧ a.day < b.day)⟩

instance : LE Date :=
  ⟨fun a b => a.year < b.year ∨
    a.year = b.year ∧ (a.month < b.month ∨ a.month = b.month ∧ a.day ≤ b.day)⟩

instance (a b : Date) : Decidable (a < b) := inferInstanceAs (Decidable (_ ∨ _ ∧ (_ ∨ _ ∧ _)))

instance (a b : Date) : Decidable (a ≤ b) := inferInstanceAs (Decidable (_ ∨ _ ∧ (_ ∨ _ ∧ _)))

theorem lt_def {a b : Date} : a < b ↔ a.year < b.year ∨
    a.year = b.year ∧ (a.month < b.month ∨ a.month = b.month ∧ a.day < b.day) :=
  Iff.rfl

theorem le_def {a b : Date} : a ≤ b ↔ a.year < b.year ∨
    a.year = b.year ∧ (a.month < b.month ∨ a.month = b.month ∧ a.day ≤ b.day) :=
  Iff.rfl

theorem le_refl (a : Date) : a ≤ a := .inr ⟨rfl, .inr ⟨rfl, Nat.le_refl _⟩⟩

theorem le_of_lt {a b : Date} (h : a < b) : a ≤ b := by
  rw [lt_def] at h
  rw [le_def]
  omega

theorem eq_iff_le_and_le {a b : Date} : a = b ↔ a ≤ b ∧ b ≤ a := by
  rw [le_def, le_def, Date.mk.injEq]
  omega

theorem not_le_of_lt {a b : Date} (h : a < b) : ¬ b ≤ a := by
  rw [lt_def] at h
  rw [le_def]
  omega

/-- A later day has a later date. -/
theorem ofDays_lt {m n : Int} (h : m < n) : ofDays m < ofDays n := by
  rw [lt_def]
  have hyears : yearOfDay (m + epoch) ≤ yearOfDay (n + epoch) := yearOfDay_mono (by omega)
  rcases Int.lt_or_eq_of_le hyears with hlater | hsame
  · exact .inl hlater
  · have hm := daysBeforeYear_yearOfDay_le (m + epoch)
    refine .inr ⟨hsame, ?_⟩
    simp only [ofDays, hsame]
    rw [hsame] at hm
    exact monthAndDay_lt 1 _ (by omega)

theorem ofDays_lt_iff {m n : Int} : ofDays m < ofDays n ↔ m < n := by
  refine ⟨fun h => ?_, ofDays_lt⟩
  by_contra hnot
  rcases Int.lt_or_eq_of_le (Int.not_lt.1 hnot) with hlt | heq
  · exact not_le_of_lt (ofDays_lt hlt) (le_of_lt h)
  · exact not_le_of_lt h (heq ▸ le_refl _)

/-- **Dates are in the order of their days.** -/
theorem ofDays_le_iff {m n : Int} : ofDays m ≤ ofDays n ↔ m ≤ n := by
  constructor
  · intro h
    by_contra hlt
    exact not_le_of_lt (ofDays_lt (Int.not_le.1 hlt)) h
  · intro h
    rcases Int.lt_or_eq_of_le h with hlt | rfl
    · exact le_of_lt (ofDays_lt hlt)
    · exact le_refl _

/-- **Each day has a date of its own.** -/
theorem ofDays_inj {m n : Int} : ofDays m = ofDays n ↔ m = n := by
  rw [eq_iff_le_and_le, ofDays_le_iff, ofDays_le_iff]
  exact Int.le_antisymm_iff.symm

end Date

/-! ## Moments -/

namespace Moment

instance : LE Moment := ⟨fun a b => a.date < b.date ∨ a.date = b.date ∧ a.timeOfDay ≤ b.timeOfDay⟩

instance (a b : Moment) : Decidable (a ≤ b) := inferInstanceAs (Decidable (_ ∨ _ ∧ _))

theorem le_def {a b : Moment} :
    a ≤ b ↔ a.date < b.date ∨ a.date = b.date ∧ a.timeOfDay ≤ b.timeOfDay :=
  Iff.rfl

/-- **Moments are in the order of their microseconds.** -/
theorem le_iff_micros {a b : Moment} : a ≤ b ↔ a.micros ≤ b.micros := by
  rw [le_def, date, date, Date.ofDays_lt_iff, Date.ofDays_inj]
  unfold dayNumber timeOfDay microsPerDay microsPerSecond
  omega

theorem le_trans {a b c : Moment} (hab : a ≤ b) (hbc : b ≤ c) : a ≤ c :=
  le_iff_micros.2 (Int.le_trans (le_iff_micros.1 hab) (le_iff_micros.1 hbc))

/-- A moment lies past the start of a day exactly if its date is not before that of the day. -/
theorem startOfDay_le_iff {a b : Moment} : a.startOfDay ≤ b ↔ a.date ≤ b.date := by
  rw [le_iff_micros, date, date, Date.ofDays_le_iff]
  simp only [startOfDay, dayNumber, microsPerDay, microsPerSecond]
  omega

/-- A moment lies before the end of a day exactly if its date is not behind that of the day. -/
theorem le_endOfDay_iff {a b : Moment} : b ≤ a.endOfDay ↔ b.date ≤ a.date := by
  rw [le_iff_micros, date, date, Date.ofDays_le_iff]
  simp only [endOfDay, dayNumber, microsPerDay, microsPerSecond]
  omega

/-- Whole days earlier the time of day is the same, and the date is so many days earlier. -/
theorem date_of_days_before {a b : Moment} {n : Nat} (h : b.micros = a.micros - n * microsPerDay) :
    b.date = Date.ofDays (a.dayNumber - n) := by
  rw [date]
  apply congrArg
  simp only [dayNumber, microsPerDay, microsPerSecond] at h ⊢
  omega

end Moment

end NetTimeline.Calendar
