import Mathlib.Logic.Function.Iterate
import NetTimeline.Proofs.Calendar.Order

/-!
# The days of the calendar, one after the other

The calendar can be told without counting: `Date.next` is the day after a date, by the length of the
month and of the year, and `Date.IsAfter` says how many such steps lie between two dates. The number
of a date counts these steps. The search that finds the date of a number, through the mean length of
a year and the lengths of the months, finds the one that exists and has that number.

Principal results:

* `Date.ofDays_toDays`, `Date.toDays_ofDays` — each date that exists is the date of its number, and
  each number is that of its date;
* `Date.toDays_next` — the day after has the next number;
* `Date.isAfter_iff` — so the steps between two dates are the difference of their numbers.
-/

set_option autoImplicit false

namespace NetTimeline.Calendar

/-! ## Years -/

/-- A day lies in the only year that begins by it and ends after it. -/
theorem yearOfDay_eq {n year : Int} (hbegins : daysBeforeYear year ≤ n)
    (hends : n < daysBeforeYear (year + 1)) : yearOfDay n = year := by
  have hfound := daysBeforeYear_yearOfDay_le n
  have hnext := lt_daysBeforeYear_yearOfDay n
  apply Int.le_antisymm
  · by_contra hlater
    have hle : daysBeforeYear (year + 1) ≤ daysBeforeYear (yearOfDay n) :=
      daysBeforeYear_mono (by omega)
    omega
  · by_contra hearlier
    have hle : daysBeforeYear (yearOfDay n + 1) ≤ daysBeforeYear year :=
      daysBeforeYear_mono (by omega)
    omega

/-! ## Months -/

namespace Date

theorem totalDays_cons (length : Nat) (lengths : List Nat) :
    totalDays (length :: lengths) = length + totalDays lengths := rfl

theorem totalDays_append (front back : List Nat) :
    totalDays (front ++ back) = totalDays front + totalDays back := by
  induction front with
  | nil => exact (Nat.zero_add _).symm
  | cons length lengths ih =>
    rw [List.cons_append, totalDays_cons, totalDays_cons, ih, Nat.add_assoc]

theorem totalDays_take_succ (lengths : List Nat) (i : Nat) :
    totalDays (lengths.take (i + 1)) = totalDays (lengths.take i) + lengths[i]?.getD 0 := by
  rw [List.take_add_one, totalDays_append]
  cases lengths[i]? <;> rfl

theorem totalDays_take_le (lengths : List Nat) (i : Nat) :
    totalDays (lengths.take i) ≤ totalDays lengths := by
  calc totalDays (lengths.take i)
      ≤ totalDays (lengths.take i) + totalDays (lengths.drop i) := Nat.le_add_right _ _
    _ = totalDays lengths := by rw [← totalDays_append, List.take_append_drop]

/-- A day within some months lies in one of them. -/
theorem exists_of_lt_totalDays {lengths : List Nat} {n : Nat} (h : n < totalDays lengths) :
    ∃ i k, k < lengths[i]?.getD 0 ∧ n = totalDays (lengths.take i) + k := by
  induction lengths generalizing n with
  | nil => exact absurd h (Nat.not_lt_zero n)
  | cons length lengths ih =>
    rw [totalDays_cons] at h
    by_cases hhere : n < length
    · exact ⟨0, n, hhere, (Nat.zero_add n).symm⟩
    · obtain ⟨i, k, hk, hn⟩ := ih (show n - length < totalDays lengths by omega)
      refine ⟨i + 1, k, hk, ?_⟩
      rw [List.take_succ_cons, totalDays_cons]
      omega

/-- A month is found by taking away the days of those before it. -/
theorem monthAndDay_of_take {lengths : List Nat} {i k : Nat} (month : Nat)
    (h : k < lengths[i]?.getD 0) :
    monthAndDay month lengths (totalDays (lengths.take i) + k) = (month + i, k + 1) := by
  induction lengths generalizing month i with
  | nil => exact absurd h (Nat.not_lt_zero k)
  | cons length lengths ih =>
    cases i with
    | zero =>
      have hhere : k < length := h
      have hnone : totalDays ((length :: lengths).take 0) + k = k := Nat.zero_add k
      rw [hnone, monthAndDay, if_pos hhere]
      rfl
    | succ i =>
      rw [List.take_succ_cons, totalDays_cons, Nat.add_assoc, monthAndDay, if_neg (by omega),
        Nat.add_sub_cancel_left, ih (month + 1) h, Nat.add_right_comm]
      rfl

/-- The days of a year before a month. -/
def daysBeforeMonth (year : Int) (month : Nat) : Nat :=
  totalDays ((monthLengths (isLeapYear year)).take (month - 1))

theorem toDays_eq (date : Date) :
    date.toDays =
      daysBeforeYear date.year + daysBeforeMonth date.year date.month + (date.day - 1) - epoch :=
  rfl

theorem daysInMonth_succ (year : Int) (i : Nat) :
    daysInMonth year (i + 1) = (monthLengths (isLeapYear year))[i]?.getD 0 := by
  rw [daysInMonth, if_neg (Nat.succ_ne_zero i), Nat.add_sub_cancel]

theorem daysBeforeMonth_succ (year : Int) {month : Nat} (h : 1 ≤ month) :
    daysBeforeMonth year (month + 1) = daysBeforeMonth year month + daysInMonth year month := by
  obtain ⟨i, rfl⟩ := Nat.exists_eq_add_of_le' h
  rw [daysInMonth_succ]
  exact totalDays_take_succ _ i

/-- A year is as long as its twelve months. -/
theorem daysBeforeYear_add_months (year : Int) :
    daysBeforeYear (year + 1) =
      daysBeforeYear year + totalDays (monthLengths (isLeapYear year)) := by
  rw [daysBeforeYear_succ]
  cases isLeapYear year <;> rfl

/-- A month with days in it is one of the twelve. -/
theorem month_of_lt_daysInMonth {year : Int} {month k : Nat} (h : k < daysInMonth year month) :
    1 ≤ month ∧ month ≤ 12 := by
  by_contra hout
  have hnone : daysInMonth year month = 0 := by
    unfold daysInMonth
    split
    · rfl
    · rw [List.getElem?_eq_none (show 12 ≤ month - 1 by omega)]
      rfl
  omega

theorem daysInMonth_pos (year : Int) {month : Nat} (hfirst : 1 ≤ month) (hlast : month ≤ 12) :
    1 ≤ daysInMonth year month := by
  obtain ⟨i, rfl⟩ := Nat.exists_eq_add_of_le' hfirst
  have hlengths : ∀ leap, ∀ days ∈ monthLengths leap, 1 ≤ days := by decide
  have hi : i < (monthLengths (isLeapYear year)).length := hlast
  rw [daysInMonth_succ, List.getElem?_eq_getElem hi]
  exact hlengths _ _ (List.getElem_mem hi)

/-- The days of a month lie in its year. -/
theorem lt_daysBeforeYear_succ {year : Int} {month k : Nat} (h : k < daysInMonth year month) :
    daysBeforeYear year + daysBeforeMonth year month + k < daysBeforeYear (year + 1) := by
  obtain ⟨hfirst, -⟩ := month_of_lt_daysInMonth h
  have hnext : daysBeforeMonth year (month + 1) ≤ totalDays (monthLengths (isLeapYear year)) :=
    totalDays_take_le _ month
  rw [daysBeforeMonth_succ year hfirst] at hnext
  rw [daysBeforeYear_add_months]
  omega

/-! ## Dates and their numbers -/

/-- The date of so many days past the start of a month. -/
theorem ofDays_of_month {year : Int} {month k : Nat} (h : k < daysInMonth year month) :
    ofDays (daysBeforeYear year + daysBeforeMonth year month + k - epoch) =
      ⟨year, month, k + 1⟩ := by
  obtain ⟨hfirst, -⟩ := month_of_lt_daysInMonth h
  obtain ⟨i, rfl⟩ := Nat.exists_eq_add_of_le' hfirst
  have hmonth := monthAndDay_of_take 1 (daysInMonth_succ year i ▸ h)
  have hyear : yearOfDay (daysBeforeYear year + daysBeforeMonth year (i + 1) + k) = year :=
    yearOfDay_eq (by omega) (lt_daysBeforeYear_succ h)
  have hrest : (daysBeforeYear year + daysBeforeMonth year (i + 1) + k - daysBeforeYear year).toNat
      = daysBeforeMonth year (i + 1) + k := by omega
  unfold ofDays
  simp only [Int.sub_add_cancel, hyear, hrest]
  rw [daysBeforeMonth, Nat.add_sub_cancel, hmonth, Nat.add_comm 1 i]

/-- **Each date that exists is the date of its number.** -/
theorem ofDays_toDays {date : Date} (h : date.Exists) : ofDays date.toDays = date := by
  obtain ⟨-, -, hfirst, hlast⟩ := h
  have hday : date.day - 1 < daysInMonth date.year date.month := by omega
  have hnumber : date.toDays = daysBeforeYear date.year + daysBeforeMonth date.year date.month +
      (date.day - 1 : Nat) - epoch := by
    rw [toDays_eq]
    omega
  rw [hnumber, ofDays_of_month hday, Nat.sub_add_cancel hfirst]

/-- Each day of the calendar, counted from 1970-01-01, has a date that exists. -/
theorem exists_toDays_eq (n : Int) : ∃ date : Date, date.Exists ∧ date.toDays = n := by
  let year := yearOfDay (n + epoch)
  have hbegins : daysBeforeYear year ≤ n + epoch := daysBeforeYear_yearOfDay_le _
  have hends : n + epoch < daysBeforeYear (year + 1) := lt_daysBeforeYear_yearOfDay _
  have hrest : (n + epoch - daysBeforeYear year).toNat <
      totalDays (monthLengths (isLeapYear year)) := by
    rw [daysBeforeYear_add_months] at hends
    omega
  obtain ⟨i, k, hk, hday⟩ := exists_of_lt_totalDays hrest
  have hmonth : k < daysInMonth year (i + 1) := daysInMonth_succ year i ▸ hk
  obtain ⟨hfirst, hlast⟩ := month_of_lt_daysInMonth hmonth
  have hbefore : daysBeforeMonth year (i + 1) + k = (n + epoch - daysBeforeYear year).toNat :=
    hday.symm
  refine ⟨⟨year, i + 1, k + 1⟩, ⟨hfirst, hlast, Nat.succ_pos k, hmonth⟩, ?_⟩
  rw [toDays_eq]
  dsimp only
  omega

theorem exists_ofDays (n : Int) : (ofDays n).Exists := by
  obtain ⟨date, hdate, rfl⟩ := exists_toDays_eq n
  rwa [ofDays_toDays hdate]

/-- **Each number is that of its date.** -/
theorem toDays_ofDays (n : Int) : (ofDays n).toDays = n := by
  obtain ⟨date, hdate, rfl⟩ := exists_toDays_eq n
  rw [ofDays_toDays hdate]

theorem toDays_inj {a b : Date} (ha : a.Exists) (hb : b.Exists) :
    a.toDays = b.toDays ↔ a = b := by
  constructor
  · intro h
    rw [← ofDays_toDays ha, ← ofDays_toDays hb, h]
  · exact congrArg toDays

/-! ## From day to day -/

/-- The day after a date: in the same month, on the first of the next, or on New Year's Day. -/
def next (date : Date) : Date :=
  if date.day < daysInMonth date.year date.month then { date with day := date.day + 1 }
  else if date.month < 12 then ⟨date.year, date.month + 1, 1⟩
  else ⟨date.year + 1, 1, 1⟩

theorem exists_next {date : Date} (h : date.Exists) : date.next.Exists := by
  obtain ⟨hfirst, hlast, hday, -⟩ := h
  unfold next
  split
  · rename_i hmore
    exact ⟨hfirst, hlast, Nat.succ_pos _, hmore⟩
  · split
    · rename_i hmonth
      exact ⟨Nat.succ_pos _, hmonth, Nat.le_refl 1, daysInMonth_pos _ (Nat.succ_pos _) hmonth⟩
    · have htwelve : 1 ≤ 12 := by decide
      exact ⟨Nat.le_refl 1, htwelve, Nat.le_refl 1, daysInMonth_pos _ (Nat.le_refl 1) htwelve⟩

/-- **The day after has the next number**, within a month, past its end and past the year's. -/
theorem toDays_next {date : Date} (h : date.Exists) : date.next.toDays = date.toDays + 1 := by
  obtain ⟨year, month, day⟩ := date
  obtain ⟨hfirst, hlast, hday, hend⟩ :
    1 ≤ month ∧ month ≤ 12 ∧ 1 ≤ day ∧ day ≤ daysInMonth year month := h
  have hmonth : daysBeforeMonth year (month + 1) =
      daysBeforeMonth year month + daysInMonth year month := daysBeforeMonth_succ year hfirst
  simp only [next]
  split
  · simp only [toDays_eq]
    omega
  · split
    · -- the month is over, and the next one of the year begins
      simp only [toDays_eq]
      omega
    · -- so is the year, and its days are those of all its months
      obtain rfl : month = 12 := by omega
      have hyear : daysBeforeYear (year + 1) =
          daysBeforeYear year + daysBeforeMonth year (12 + 1) := daysBeforeYear_add_months year
      have hnewYear : daysBeforeMonth (year + 1) 1 = 0 := rfl
      simp only [toDays_eq]
      omega

theorem iterate_next {date : Date} (h : date.Exists) (n : Nat) :
    (next^[n] date).Exists ∧ (next^[n] date).toDays = date.toDays + n := by
  induction n with
  | zero => exact ⟨h, (Int.add_zero _).symm⟩
  | succ n ih =>
    obtain ⟨hexists, hnumber⟩ := ih
    rw [Function.iterate_succ_apply']
    refine ⟨exists_next hexists, ?_⟩
    rw [toDays_next hexists, hnumber]
    omega

/-- So many days from one date on lies another one; for a negative number, from the other one on. -/
def IsAfter (days : Int) (start date : Date) : Prop :=
  (0 ≤ days → next^[days.toNat] start = date) ∧ (days ≤ 0 → next^[(-days).toNat] date = start)

/-- **The steps from day to day between two dates are the difference of their numbers.** -/
theorem isAfter_iff {days : Int} {start date : Date} (hstart : start.Exists)
    (hdate : date.Exists) : IsAfter days start date ↔ date.toDays = start.toDays + days := by
  obtain ⟨hforth, hahead⟩ := iterate_next hstart days.toNat
  obtain ⟨hback, hbehind⟩ := iterate_next hdate (-days).toNat
  unfold IsAfter
  rw [← toDays_inj hforth hdate, ← toDays_inj hback hstart, hahead, hbehind]
  omega

end Date

end NetTimeline.Calendar
