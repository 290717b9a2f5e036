import NetTimeline.Proofs.Calendar.DayExpression
import NetTimeline.Proofs.Event.Window

/-!
# Windows of whole days

An expression for a day is a moment on that day, at the time of day of the present. Where a window
begins with it, the moment is moved to midnight, and where a window ends with it, to the last
microsecond of the day. Between these two lie exactly the moments of the day, since moments are
counted in microseconds, so no start falls into a gap between two days, and none into two of them.

Principal results:

* `DayExpression.namesDay` — the expressions for days are among those whose moments are moved;
* `Window.select_days` — what a window keeps that looks at the dates only;
* `filterByReader_day` — from a day on, up to a day, and on a day alone.
-/

set_option autoImplicit false

namespace NetTimeline

open Calendar (Date DayExpression Moment microsPerDay readMoment)

/-- The date on which an event starts. -/
def NetworkEvent.startDate? (event : NetworkEvent) : Option Date :=
  event.startMoment.toOption.map Moment.date

/-! ## Expressions for days -/

/-- **An expression for a day names a day**, and is moved where it ends a window. -/
theorem Calendar.DayExpression.namesDay {text : String} {n : Nat} (h : DayExpression text n) :
    Window.namesDay text = true := by
  cases h with
  | today => decide
  | yesterday => decide
  | @daysAgo digits hsome hdigits =>
    have hsplit : (String.ofList digits ++ " days ago").toList =
        (digits ++ [' ']) ++ "days ago".toList ++ [] := by
      rw [String.toList_append, String.toList_ofList, List.append_nil, List.append_assoc]
      rfl
    have hpart : Text.hasPart "days ago".toList (String.ofList digits ++ " days ago").toList =
        true := by
      rw [hsplit]
      exact Text.hasPart_append (digits ++ [' ']) "days ago".toList []
    unfold Window.namesDay
    rw [hpart, Bool.or_true]

theorem Calendar.DayExpression.ne_empty {text : String} {n : Nat} (h : DayExpression text n) :
    text ≠ "" := by
  rintro rfl
  exact absurd h.namesDay (by decide)

/-! ## Windows -/

namespace Window

theorem endOf_of_day {snap : Moment → Moment} {unreadable : String → WindowError}
    {read : DateReader} {text : String} {moment : Moment} (hday : namesDay text = true)
    (hread : read text = .ok moment) : endOf snap unreadable read text = .ok (snap moment) := by
  unfold endOf
  rw [hread, hday]
  rfl

theorem contains_from_day (day moment : Moment) :
    contains ⟨some day.startOfDay, none⟩ moment = decide (day.date ≤ moment.date) := by
  rw [Bool.eq_iff_iff, contains_iff, decide_eq_true_iff, ← Moment.startOfDay_le_iff]
  simp

theorem contains_to_day (day moment : Moment) :
    contains ⟨none, some day.endOfDay⟩ moment = decide (moment.date ≤ day.date) := by
  rw [Bool.eq_iff_iff, contains_iff, decide_eq_true_iff, ← Moment.le_endOfDay_iff]
  simp

/-- The start of a day and its end leave no other date between them. -/
theorem contains_on_day (day moment : Moment) :
    contains ⟨some day.startOfDay, some day.endOfDay⟩ moment = decide (moment.date = day.date) := by
  rw [contains_between, contains_from_day, contains_to_day, ← Bool.decide_and]
  apply decide_eq_decide.2
  rw [Date.eq_iff_le_and_le]
  exact And.comm

variable {α : Type} {window : Window} {event : α → NetworkEvent} {items : List α}

/-- **What a window keeps that looks at the dates only.** -/
theorem select_days {p : Date → Bool} (hopen : window.isOpen = false)
    (hcontains : ∀ moment, window.contains moment = p moment.date)
    (hstarts : ∀ item ∈ items, (event item).HasStart) :
    window.select event items =
      .ok (items.filter fun item => (event item).startDate?.any p) := by
  refine (select_eq_ok hopen).2 ⟨hstarts, List.filter_congr ?_⟩
  intro item hitem
  obtain ⟨moment, hmoment⟩ := hstarts item hitem
  unfold NetworkEvent.startDate?
  rw [keeps_of_start hmoment, hmoment]
  exact (hcontains moment).symm

end Window

/-! ## The filter -/

/-- **Day windows cover exactly whole days.** Let an expression name the day so many days before the
present, and be read as the moment so many days before it. As both ends, it keeps exactly the events
of that date; as the beginning, those of that date and later; as the end, those up to that date. -/
theorem filterByReader_day {α : Type} {read : DateReader} {present moment : Moment} {text : String}
    {n : Nat} (htext : DayExpression text n) (hread : read text = .ok moment)
    (hmoment : moment.micros = present.micros - n * microsPerDay) (event : α → NetworkEvent)
    (items : List α) (hstarts : ∀ item ∈ items, (event item).HasStart) :
    let day := Date.ofDays (present.dayNumber - n)
    filterByReader read (some text) (some text) event items =
        .ok (items.filter fun item => (event item).startDate?.any (· = day)) ∧
      filterByReader read (some text) none event items =
        .ok (items.filter fun item => (event item).startDate?.any (day ≤ ·)) ∧
      filterByReader read none (some text) event items =
        .ok (items.filter fun item => (event item).startDate?.any (· ≤ day)) := by
  intro day
  have hdate : moment.date = day := Moment.date_of_days_before hmoment
  have hfirst : Window.firstOf read text = .ok moment.startOfDay :=
    Window.endOf_of_day htext.namesDay hread
  have hlast : Window.lastOf read text = .ok moment.endOfDay :=
    Window.endOf_of_day htext.namesDay hread
  rw [← hdate]
  refine ⟨?_, ?_, ?_⟩
  · apply (filterByReader_between htext.ne_empty htext.ne_empty).2
    exact ⟨_, _, hfirst, hlast, Window.select_days rfl (Window.contains_on_day moment) hstarts⟩
  · apply (filterByReader_from htext.ne_empty).2
    exact ⟨_, hfirst, Window.select_days rfl (Window.contains_from_day moment) hstarts⟩
  · apply (filterByReader_to htext.ne_empty).2
    exact ⟨_, hlast, Window.select_days rfl (Window.contains_to_day moment) hstarts⟩

/-- Noon on 3 January 1970. -/
def noonOfTheThird : Moment := ⟨216000000000, by decide, by decide⟩

/-- Two days before that is noon on 1 January. Of the events around it the first two are of that
day, though one is before that noon, and the third is of the day after. -/
theorem filterByReader_day_noon :
    ∃ moment, readMoment noonOfTheThird "2 days ago" = .ok moment ∧
      filterByReader (readMoment noonOfTheThird) (some "2 days ago") (some "2 days ago") id
        eventsAroundNoon = .ok (eventsAroundNoon.take 2) ∧
      filterByReader (readMoment noonOfTheThird) (some "2 days ago") none id eventsAroundNoon =
        .ok eventsAroundNoon ∧
      filterByReader (readMoment noonOfTheThird) none (some "2 days ago") id eventsAroundNoon =
        .ok (eventsAroundNoon.take 2) := by
  have htext : DayExpression "2 days ago" 2 := .daysAgo (List.cons_ne_nil '2' []) rfl
  let moment : Moment := ⟨43200000000, by decide, by decide⟩
  have hmoment : moment.micros = noonOfTheThird.micros - (2 : Nat) * microsPerDay := by decide
  have hread : readMoment noonOfTheThird "2 days ago" = .ok moment :=
    (Calendar.readMoment_day_iff htext).2 hmoment
  have hstarts : ∀ event ∈ eventsAroundNoon, event.HasStart := by decide +kernel
  obtain ⟨hon, hfrom, hto⟩ :=
    filterByReader_day htext hread hmoment id eventsAroundNoon hstarts
  refine ⟨moment, hread, hon.trans ?_, hfrom.trans ?_, hto.trans ?_⟩
  · decide +kernel
  · decide +kernel
  · decide +kernel

end NetTimeline
