import NetTimeline.Proofs.Event.Day

/-!
# Spellings of a day, where a window ends

A day has spellings that say the same moment, and those that are not expressions for a day in just
their letters, such as `1 day ago` or `Yesterday`, are not moved to the start or the end of the day.
A window that begins with one of these begins at the time of day of the present. Against another
spelling of the day it loses the events of the day before that time, and no others; where it ends
with one, it loses those of the day behind that time.

Principal results:

* `DaySpelling.namesDay_iff` — the spellings that are moved are the expressions for a day;
* `Window.select_eq_iff` — when two windows keep the same events, or fail alike;
* `filterByReader_spelling` — when two spellings of a day keep the same events.
-/

set_option autoImplicit false

namespace NetTimeline

open Calendar (Date DayExpression DaySpelling DayText Moment microsPerDay readMoment)

/-! ## The spellings that are moved -/

section Spelling

variable {text : String} {n : Nat}

theorem Calendar.DaySpelling.ne_empty (h : DaySpelling text n) : text ≠ "" := by
  rintro rfl
  obtain ⟨first, middle, last, hends, -⟩ := DayText.exists_ends h
  cases hends

/-- A number of days ago has the word for more days only at its end. -/
theorem Calendar.DayText.eq_of_hasPart {cs before rest : List Char} (h : DayText cs n)
    (hcs : cs = before ++ "days ago".toList ++ rest) :
    ∃ digits, digits ≠ [] ∧ digits.all Char.isDigit = true ∧ digitsValue digits = n ∧
      before = digits ++ [' '] ∧ rest = [] := by
  cases h with
  | today =>
    have hlength := congrArg List.length hcs
    simp at hlength
    omega
  | yesterday =>
    have hblank : ' ' ∈ "yesterday".toList := by simp [hcs]
    exact absurd hblank (by decide)
  | @ago digits word hsome hdigits hword =>
    rw [List.append_assoc] at hcs
    rcases List.append_eq_append_iff.1 hcs with ⟨behind, rfl, htail⟩ | ⟨behind, rfl, htail⟩
    · -- behind the digits there is a blank, and room for no more than the word
      cases behind with
      | nil => cases htail
      | cons c behind =>
        obtain ⟨rfl, htail⟩ := List.cons.inj htail
        have hlength := congrArg List.length htail
        rcases hword with rfl | rfl
        · simp at hlength
          omega
        · simp at hlength
          obtain rfl : behind = [] := List.eq_nil_of_length_eq_zero (by omega)
          obtain rfl : rest = [] := List.eq_nil_of_length_eq_zero (by omega)
          exact ⟨digits, hsome, hdigits, rfl, rfl, rfl⟩
    · -- the word starts with no digit
      cases behind with
      | nil => cases htail
      | cons c behind =>
        have hc : 'd' = c := (List.cons.inj htail).1
        have hdigit : c.isDigit = true := List.all_eq_true.1 hdigits c (by simp)
        rw [← hc] at hdigit
        cases hdigit

/-- Of these texts, two have no blank in them. -/
theorem Calendar.DayText.expression_of_no_blank {cs : List Char} (h : DayText cs n)
    (hblank : ' ' ∉ cs) : DayExpression (String.ofList cs) n := by
  cases h with
  | today => exact .today
  | yesterday => exact .yesterday
  | ago => simp at hblank

/-- **The spellings of a day that are moved** are the expressions for it, in just their letters. -/
theorem Calendar.DaySpelling.namesDay_iff (h : DaySpelling text n) :
    Window.namesDay text = true ↔ DayExpression text n := by
  refine ⟨fun hnames => ?_, DayExpression.namesDay⟩
  simp only [Window.namesDay, Bool.or_eq_true, decide_eq_true_eq] at hnames
  rcases hnames with (rfl | rfl) | hpart
  · exact DayText.expression_of_no_blank h (by decide)
  · exact DayText.expression_of_no_blank h (by decide)
  · obtain ⟨before, rest, hsplit⟩ := Text.hasPart_iff.1 hpart
    have hlower : text.toList.map Char.toLower = before.map Char.toLower ++ "days ago".toList ++
        rest.map Char.toLower := by
      rw [hsplit, List.map_append, List.map_append]
      rfl
    obtain ⟨digits, hsome, hdigits, rfl, hbefore, hrest⟩ := DayText.eq_of_hasPart h hlower
    -- the letters of the last words are small as they stand, and nothing else is a letter
    have hletters : ∀ c ∈ digits ++ [' '], c.isAlpha = false := by
      intro c hc
      rcases List.mem_append.1 hc with hc | hc
      · exact Calendar.not_isAlpha_of_isDigit (List.all_eq_true.1 hdigits c hc)
      · obtain rfl := List.mem_singleton.1 hc
        rfl
    have htext : text = String.ofList digits ++ " days ago" := by
      rw [← String.toList_inj, hsplit, Calendar.eq_of_map_toLower hbefore hletters,
        List.map_eq_nil_iff.1 hrest, String.toList_append, String.toList_ofList]
      simp
    rw [htext]
    exact .daysAgo hsome hdigits

end Spelling

/-! ## The start and the end of a day -/

namespace Calendar

theorem Date.le_iff_lt_or_eq {a b : Date} : a ≤ b ↔ a < b ∨ a = b := by
  rw [le_def, lt_def, Date.mk.injEq]
  omega

theorem Date.lt_irrefl (a : Date) : ¬ a < a := by
  rw [lt_def]
  omega

namespace Moment

/-- Whole days earlier the time of day is the same. -/
theorem timeOfDay_of_days_before {a b : Moment} {n : Nat}
    (h : b.micros = a.micros - n * microsPerDay) : b.timeOfDay = a.timeOfDay := by
  simp only [timeOfDay, microsPerDay, microsPerSecond] at h ⊢
  omega

/-- What lies past a moment and what lies past the start of its day is the same behind its time of
day. -/
theorem startOfDay_le_iff_le {a b : Moment} :
    (a.startOfDay ≤ b ↔ a ≤ b) ↔ (b.date = a.date → a.timeOfDay ≤ b.timeOfDay) := by
  have hdate : a.date ≤ b.date ↔ a.date < b.date ∨ a.date = b.date := Date.le_iff_lt_or_eq
  have hirrefl : a.date = b.date → ¬ a.date < b.date := fun h => h ▸ Date.lt_irrefl _
  rw [startOfDay_le_iff, le_def, hdate, eq_comm (a := b.date)]
  grind

theorem le_endOfDay_iff_le {a b : Moment} :
    (b ≤ a.endOfDay ↔ b ≤ a) ↔ (b.date = a.date → b.timeOfDay ≤ a.timeOfDay) := by
  have hdate : b.date ≤ a.date ↔ b.date < a.date ∨ b.date = a.date := Date.le_iff_lt_or_eq
  have hirrefl : b.date = a.date → ¬ b.date < a.date := fun h => h ▸ Date.lt_irrefl _
  rw [le_endOfDay_iff, le_def, hdate]
  grind

end Moment

end Calendar

/-! ## Windows that keep the same -/

/-- Two conditions keep the same of a list exactly if they agree on its members. -/
theorem List.filter_eq_iff {α : Type} {p q : α → Bool} {l : List α} :
    l.filter p = l.filter q ↔ ∀ a ∈ l, p a = q a := by
  refine ⟨fun h a ha => ?_, List.filter_congr⟩
  have hkept : a ∈ l.filter p ↔ a ∈ l.filter q := by rw [h]
  simpa [ha] using hkept

namespace Window

variable {α : Type} {window other : Window} {event : α → NetworkEvent} {items : List α}

/-- **When two windows keep the same events**, or fail alike: if a start is missing, the error does
not depend on the window. -/
theorem select_eq_iff (hwindow : window.isOpen = false) (hother : other.isOpen = false) :
    window.select event items = other.select event items ↔
      (∃ item ∈ items, ¬ (event item).HasStart) ∨
        ∀ item ∈ items, window.keeps (event item) = other.keeps (event item) := by
  by_cases hstarts : ∀ item ∈ items, (event item).HasStart
  · have hmissing : ¬ ∃ item ∈ items, ¬ (event item).HasStart := by
      rintro ⟨item, hitem, hnot⟩
      exact hnot (hstarts item hitem)
    rw [(select_eq_ok hwindow).2 ⟨hstarts, rfl⟩, (select_eq_ok hother).2 ⟨hstarts, rfl⟩,
      Except.ok.injEq, or_iff_right hmissing]
    exact List.filter_eq_iff
  · refine iff_of_true ?_ (.inl (by simpa using hstarts))
    rw [select, select, if_neg (Bool.eq_false_iff.1 hwindow), if_neg (Bool.eq_false_iff.1 hother)]
    cases hkeep : window.keep event items with
    | ok kept => exact absurd (keep_eq_ok.1 hkeep).1 hstarts
    | error e => exact (keep_eq_error.2 (keep_eq_error.1 hkeep)).symm

theorem keeps_eq_iff {e : NetworkEvent} : window.keeps e = other.keeps e ↔
    ∀ start, e.startMoment = .ok start → window.contains start = other.contains start := by
  unfold keeps
  cases e.startMoment with
  | error error => simp
  | ok moment => simp

section Snapped

variable {day : Moment} {limit : Option Moment}

theorem contains_from_eq_iff {start : Moment} :
    contains ⟨some day.startOfDay, limit⟩ start = contains ⟨some day, limit⟩ start ↔
      (start.date = day.date → (∀ last ∈ limit, start ≤ last) →
        day.timeOfDay ≤ start.timeOfDay) := by
  have hday := Moment.startOfDay_le_iff_le (a := day) (b := start)
  rw [Bool.eq_iff_iff, contains_iff, contains_iff]
  simp only [Option.some.injEq, forall_eq', Option.mem_def]
  grind

theorem contains_to_eq_iff {start : Moment} :
    contains ⟨limit, some day.endOfDay⟩ start = contains ⟨limit, some day⟩ start ↔
      (start.date = day.date → (∀ first ∈ limit, first ≤ start) →
        start.timeOfDay ≤ day.timeOfDay) := by
  have hday := Moment.le_endOfDay_iff_le (a := day) (b := start)
  rw [Bool.eq_iff_iff, contains_iff, contains_iff]
  simp only [Option.some.injEq, forall_eq', Option.mem_def]
  grind

/-- A window that begins at the start of a day keeps more than one that begins at a moment on it,
only of that day. -/
theorem select_startOfDay_eq_iff :
    select ⟨some day.startOfDay, limit⟩ event items = select ⟨some day, limit⟩ event items ↔
      (∃ item ∈ items, ¬ (event item).HasStart) ∨
        ∀ item ∈ items, ∀ start, (event item).startMoment = .ok start → start.date = day.date →
          (∀ last ∈ limit, start ≤ last) → day.timeOfDay ≤ start.timeOfDay := by
  rw [select_eq_iff rfl rfl]
  simp only [keeps_eq_iff, contains_from_eq_iff]

theorem select_endOfDay_eq_iff :
    select ⟨limit, some day.endOfDay⟩ event items = select ⟨limit, some day⟩ event items ↔
      (∃ item ∈ items, ¬ (event item).HasStart) ∨
        ∀ item ∈ items, ∀ start, (event item).startMoment = .ok start → start.date = day.date →
          (∀ first ∈ limit, first ≤ start) → start.timeOfDay ≤ day.timeOfDay := by
  have hopen (last : Moment) : isOpen ⟨limit, some last⟩ = false := Bool.and_false _
  rw [select_eq_iff (hopen _) (hopen _)]
  simp only [keeps_eq_iff, contains_to_eq_iff]

end Snapped

end Window

/-! ## The filter -/

section Filter

variable {α : Type} {read : DateReader} {moment : Moment} {text : String}
  {event : α → NetworkEvent} {items : List α}

theorem Window.endOf_of_ok {snap : Moment → Moment} {unreadable : String → WindowError}
    (hread : read text = .ok moment) : endOf snap unreadable read text =
      .ok (if namesDay text then snap moment else moment) := by
  unfold endOf
  rw [hread]

/-- What is kept from a moment on, or from the start of its day, up to another end. -/
def keptFrom (read : DateReader) (moment : Moment) (stop : Option String)
    (event : α → NetworkEvent) (items : List α) (moved : Bool) : Except WindowError (List α) := do
  let last ← Window.readEnd (Window.lastOf read) stop
  (Window.select ⟨some (if moved then moment.startOfDay else moment), last⟩ event
    items).mapError WindowError.start

/-- What is kept up to a moment, or up to the end of its day, from another end on. -/
def keptTo (read : DateReader) (moment : Moment) (start : Option String)
    (event : α → NetworkEvent) (items : List α) (moved : Bool) : Except WindowError (List α) := do
  let first ← Window.readEnd (Window.firstOf read) start
  (Window.select ⟨first, some (if moved then moment.endOfDay else moment)⟩ event
    items).mapError WindowError.start

/-- Where a window begins, an expression counts by its moment and by whether it names a day. -/
theorem filterByReader_eq_keptFrom (htext : text ≠ "") (hread : read text = .ok moment)
    (stop : Option String) : filterByReader read (some text) stop event items =
      keptFrom read moment stop event items (Window.namesDay text) := by
  have hfirst : Window.firstOf read text =
      .ok (if Window.namesDay text then moment.startOfDay else moment) := Window.endOf_of_ok hread
  have hend := (Window.readEnd_some_eq_ok htext).2 ⟨_, hfirst, rfl⟩
  unfold filterByReader Window.ofReader keptFrom
  rw [hend]
  cases Window.readEnd (Window.lastOf read) stop with
  | error e => rfl
  | ok last => rfl

theorem filterByReader_eq_keptTo (htext : text ≠ "") (hread : read text = .ok moment)
    (start : Option String) : filterByReader read start (some text) event items =
      keptTo read moment start event items (Window.namesDay text) := by
  have hlast : Window.lastOf read text =
      .ok (if Window.namesDay text then moment.endOfDay else moment) := Window.endOf_of_ok hread
  have hend := (Window.readEnd_some_eq_ok htext).2 ⟨_, hlast, rfl⟩
  unfold filterByReader Window.ofReader keptTo
  rw [hend]
  cases Window.readEnd (Window.firstOf read) start with
  | error e => rfl
  | ok first => rfl

theorem WindowError.start_injective : Function.Injective WindowError.start :=
  fun _ _ => WindowError.start.inj

/-- The start of a day is as good as a moment on it, if no event that may be kept starts between. -/
theorem keptFrom_eq_iff {stop : Option String} :
    keptFrom read moment stop event items true = keptFrom read moment stop event items false ↔
      ∀ limit, Window.readEnd (Window.lastOf read) stop = .ok limit →
        (∃ item ∈ items, ¬ (event item).HasStart) ∨
        ∀ item ∈ items, ∀ start, (event item).startMoment = .ok start →
          start.date = moment.date → (∀ last ∈ limit, start ≤ last) →
          moment.timeOfDay ≤ start.timeOfDay := by
  simp only [keptFrom, Except.bind_eq_bind_iff, Except.mapError_inj WindowError.start_injective,
    if_true, Bool.false_eq_true, if_false, Window.select_startOfDay_eq_iff]

theorem keptTo_eq_iff {start : Option String} :
    keptTo read moment start event items true = keptTo read moment start event items false ↔
      ∀ limit, Window.readEnd (Window.firstOf read) start = .ok limit →
        (∃ item ∈ items, ¬ (event item).HasStart) ∨
        ∀ item ∈ items, ∀ start, (event item).startMoment = .ok start →
          start.date = moment.date → (∀ first ∈ limit, first ≤ start) →
          start.timeOfDay ≤ moment.timeOfDay := by
  simp only [keptTo, Except.bind_eq_bind_iff, Except.mapError_inj WindowError.start_injective,
    if_true, Bool.false_eq_true, if_false, Window.select_endOfDay_eq_iff]

end Filter

/-- What depends on a flag is the same for two flags if they are, or if it does not depend on it. -/
theorem Bool.apply_eq_iff {α : Type} (f : Bool → α) (p q : Bool) :
    f p = f q ↔ p = q ∨ f true = f false := by
  cases p <;> cases q <;> simp [eq_comm]

/-- **When two spellings of a day keep the same events.** Let two expressions be read as the moment
so many days before the present. As the beginning of a window, or as its end, with any other end
beside it, they do the same to a list of events exactly if both name a day, or neither does; or if
the events fail for the want of a start; or if none of those that the other end allows starts on
that day on the far side of the time of day of the present. -/
theorem filterByReader_spelling {α : Type} {read : DateReader} {present moment : Moment}
    {a b : String} {n : Nat} (ha : a ≠ "") (hb : b ≠ "") (hreadA : read a = .ok moment)
    (hreadB : read b = .ok moment) (hmoment : moment.micros = present.micros - n * microsPerDay)
    (event : α → NetworkEvent) (items : List α) (other : Option String) :
    let day := Date.ofDays (present.dayNumber - n)
    (filterByReader read (some a) other event items =
        filterByReader read (some b) other event items ↔
      Window.namesDay a = Window.namesDay b ∨
      ∀ limit, Window.readEnd (Window.lastOf read) other = .ok limit →
        (∃ item ∈ items, ¬ (event item).HasStart) ∨
        ∀ item ∈ items, ∀ start, (event item).startMoment = .ok start → start.date = day →
          (∀ last ∈ limit, start ≤ last) → present.timeOfDay ≤ start.timeOfDay) ∧
    (filterByReader read other (some a) event items =
        filterByReader read other (some b) event items ↔
      Window.namesDay a = Window.namesDay b ∨
      ∀ limit, Window.readEnd (Window.firstOf read) other = .ok limit →
        (∃ item ∈ items, ¬ (event item).HasStart) ∨
        ∀ item ∈ items, ∀ start, (event item).startMoment = .ok start → start.date = day →
          (∀ first ∈ limit, first ≤ start) → start.timeOfDay ≤ present.timeOfDay) := by
  intro day
  have hdate : moment.date = day := Moment.date_of_days_before hmoment
  have htime : moment.timeOfDay = present.timeOfDay := Moment.timeOfDay_of_days_before hmoment
  rw [← hdate, ← htime]
  constructor
  · rw [filterByReader_eq_keptFrom ha hreadA, filterByReader_eq_keptFrom hb hreadB,
      Bool.apply_eq_iff, keptFrom_eq_iff]
  · rw [filterByReader_eq_keptTo ha hreadA, filterByReader_eq_keptTo hb hreadB,
      Bool.apply_eq_iff, keptTo_eq_iff]

/-- Noon on 3 January 1970 is one day behind noon on the second. Of the events around noon of the
first day, the last one starts at midnight of the second, which `yesterday` has in it and
`1 day ago` has not. Up to that day the two keep the same. -/
theorem filterByReader_spelling_singular :
    ∃ moment, readMoment noonOfTheThird "1 day ago" = .ok moment ∧
      readMoment noonOfTheThird "yesterday" = .ok moment ∧
      filterByReader (readMoment noonOfTheThird) (some "1 day ago") none id eventsAroundNoon ≠
        filterByReader (readMoment noonOfTheThird) (some "yesterday") none id eventsAroundNoon ∧
      filterByReader (readMoment noonOfTheThird) none (some "1 day ago") id eventsAroundNoon =
        filterByReader (readMoment noonOfTheThird) none (some "yesterday") id eventsAroundNoon := by
  let moment : Moment := ⟨129600000000, by decide, by decide⟩
  have hmoment : moment.micros = noonOfTheThird.micros - (1 : Nat) * microsPerDay := by decide
  have hsingular : DaySpelling "1 day ago" 1 := .ago (List.cons_ne_nil '1' []) rfl (.inl rfl)
  have hreadA : readMoment noonOfTheThird "1 day ago" = .ok moment :=
    hsingular.readMoment_iff.2 hmoment
  have hreadB : readMoment noonOfTheThird "yesterday" = .ok moment :=
    DayExpression.yesterday.spelling.readMoment_iff.2 hmoment
  obtain ⟨hfrom, hto⟩ := filterByReader_spelling hsingular.ne_empty
    DayExpression.yesterday.ne_empty hreadA hreadB hmoment id eventsAroundNoon none
  let midnight : Moment := ⟨86400000000, by decide, by decide⟩
  have hstarts : eventsAroundNoon.map NetworkEvent.startMoment =
      [.ok .epochStart, .ok ⟨43200000000, by decide, by decide⟩, .ok midnight] := by
    decide +kernel
  have hstart {event : NetworkEvent} (hevent : event ∈ eventsAroundNoon) :
      event.startMoment = .ok .epochStart ∨
        event.startMoment = .ok ⟨43200000000, by decide, by decide⟩ ∨
        event.startMoment = .ok midnight := by
    have hmem := List.mem_map_of_mem (f := NetworkEvent.startMoment) hevent
    rw [hstarts] at hmem
    simpa using hmem
  refine ⟨moment, hreadA, hreadB, fun hsame => ?_, hto.2 (.inr fun limit _ => .inr ?_)⟩
  · rcases hfrom.1 hsame with hnames | hkept
    · exact absurd hnames (by decide)
    · rcases hkept none rfl with ⟨event, hevent, hmissing⟩ | hlate
      · rcases hstart hevent with h | h | h <;> exact hmissing ⟨_, h⟩
      · have hlast : Except.ok midnight ∈ eventsAroundNoon.map NetworkEvent.startMoment := by
          rw [hstarts]
          simp
        obtain ⟨event, hevent, hmidnight⟩ := List.mem_map.1 hlast
        have hnoon := hlate event hevent midnight hmidnight (by decide) (by simp)
        exact absurd hnoon (by decide)
  · intro event hevent start hok hday _
    unfold id at hok
    rcases hstart hevent with h | h | h <;> rw [h] at hok <;> obtain rfl := Except.ok.inj hok
    · exact absurd hday (by decide)
    · exact absurd hday (by decide)
    · decide

end NetTimeline
