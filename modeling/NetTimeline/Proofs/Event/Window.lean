import NetTimeline.Log.Line
import NetTimeline.Proofs.Event.Start

/-!
# What a date window keeps

What reads the expressions of a window (`DateReader`) is left open throughout: nothing matters of it
but the moments that it makes of two texts, or that it makes none.

A window that has an end asks for the start of every event. If each has one, it keeps the events
that start in it, and otherwise it keeps nothing but an error.

Principal results:

* `Window.select_eq_ok` — when a window keeps events, and which ones;
* `Window.select_select` — two windows one behind the other keep what lies in both;
* `filterByReader_compose` — a window with two ends is two windows with one, in either order.
-/

set_option autoImplicit false

namespace NetTimeline

open Calendar (ExpressionError Moment MomentError readMoment)

section

variable {α : Type} {read : DateReader} {start stop : Option String} {event : α → NetworkEvent}
  {items kept : List α}

/-! ## Windows -/

namespace Window

theorem readEnd_none_eq_ok {reader : String → Except WindowError Moment} {limit : Option Moment} :
    readEnd reader none = .ok limit ↔ limit = none := by
  unfold readEnd
  exact ⟨fun h => (Except.ok.inj h).symm, fun h => congrArg Except.ok h.symm⟩

/-- An expression that is not empty makes an end exactly if it can be read. -/
theorem readEnd_some_eq_ok {reader : String → Except WindowError Moment} {text : String}
    (htext : text ≠ "") {limit : Option Moment} :
    readEnd reader (some text) = .ok limit ↔
      ∃ moment, reader text = .ok moment ∧ limit = some moment := by
  have hempty : ¬ text.isEmpty = true := by simpa using htext
  have hread : readEnd reader (some text) = (reader text).map some := if_neg hempty
  rw [hread]
  constructor
  · intro h
    cases hreading : reader text with
    | error e => rw [hreading] at h; cases h
    | ok moment =>
      rw [hreading] at h
      exact ⟨moment, rfl, (Except.ok.inj h).symm⟩
  · rintro ⟨moment, hreading, rfl⟩
    rw [hreading]
    rfl

/-- The ends of a window are compared in the order of the calendar. -/
theorem contains_iff {window : Window} {moment : Moment} :
    window.contains moment = true ↔
      (∀ first, window.first = some first → first ≤ moment) ∧
        ∀ last, window.last = some last → moment ≤ last := by
  simp only [contains, Bool.and_eq_true, Option.all_eq_true, decide_eq_true_eq,
    Moment.le_iff_micros]

/-- Whether an event starts in the window. -/
def keeps (window : Window) (event : NetworkEvent) : Bool :=
  match event.startMoment with
  | .ok moment => window.contains moment
  | .error _ => false

theorem keeps_iff {window : Window} {event : NetworkEvent} :
    window.keeps event = true ↔
      ∃ moment, event.startMoment = .ok moment ∧ window.contains moment = true := by
  unfold keeps
  constructor
  · intro h
    cases hmoment : event.startMoment with
    | ok moment =>
      rw [hmoment] at h
      exact ⟨moment, rfl, h⟩
    | error e =>
      rw [hmoment] at h
      cases h
  · rintro ⟨moment, hmoment, h⟩
    rw [hmoment]
    exact h

theorem keeps_of_start {window : Window} {event : NetworkEvent} {moment : Moment}
    (h : event.startMoment = .ok moment) : window.keeps event = window.contains moment := by
  unfold keeps
  rw [h]

/-- All events are asked for their starts, and those that start in the window are kept. -/
theorem keep_eq_ok {window : Window} :
    window.keep event items = .ok kept ↔
      (∀ item ∈ items, (event item).HasStart) ∧
        kept = items.filter fun item => window.keeps (event item) := by
  induction items generalizing kept with
  | nil =>
    simp only [keep, List.not_mem_nil, false_implies, implies_true, true_and, List.filter_nil]
    exact ⟨fun h => (Except.ok.inj h).symm, fun h => by rw [h]⟩
  | cons item items ih =>
    unfold keep
    rw [Except.bind_eq_ok]
    constructor
    · rintro ⟨moment, hmoment, h⟩
      obtain ⟨rest, hrest, hkept⟩ := Except.bind_eq_ok.1 h
      obtain ⟨hstarts, rfl⟩ := ih.1 hrest
      refine ⟨List.forall_mem_cons.2 ⟨⟨moment, hmoment⟩, hstarts⟩, ?_⟩
      rw [List.filter_cons, keeps_of_start hmoment]
      exact (Except.ok.inj hkept).symm
    · rintro ⟨hstarts, rfl⟩
      obtain ⟨⟨moment, hmoment⟩, hrest⟩ := List.forall_mem_cons.1 hstarts
      refine ⟨moment, hmoment, Except.bind_eq_ok.2 ⟨_, ih.2 ⟨hrest, rfl⟩, ?_⟩⟩
      rw [List.filter_cons, keeps_of_start hmoment]
      rfl

/-- If there is one that starts at no moment, it fails as the first of these does. -/
theorem keep_eq_error {window : Window} {e : MomentError} :
    window.keep event items = .error e ↔
      FailsFirst (fun item => (event item).startMoment) e items := by
  induction items with
  | nil => exact ⟨fun h => (by cases h), fun h => by cases h⟩
  | cons item items ih =>
    unfold keep
    rw [Except.bind_eq_error, failsFirst_cons_iff, ← ih]
    refine or_congr Iff.rfl ⟨?_, ?_⟩
    · rintro ⟨moment, hmoment, h⟩
      rcases Except.bind_eq_error.1 h with hrest | ⟨kept, -, hpure⟩
      · exact ⟨⟨moment, hmoment⟩, hrest⟩
      · cases hpure
    · rintro ⟨⟨moment, hmoment⟩, hrest⟩
      exact ⟨moment, hmoment, Except.bind_eq_error.2 (.inl hrest)⟩

/-- **What a window keeps.** -/
theorem select_eq_ok {window : Window} (h : window.isOpen = false) :
    window.select event items = .ok kept ↔
      (∀ item ∈ items, (event item).HasStart) ∧
        kept = items.filter fun item => window.keeps (event item) := by
  rw [select, if_neg (Bool.eq_false_iff.1 h)]
  exact keep_eq_ok

/-- A window keeps all of what it has kept. -/
theorem select_again {window : Window} (h : window.select event items = .ok kept) :
    window.select event kept = .ok kept := by
  cases hopen : window.isOpen with
  | true =>
    rw [select, if_pos hopen]
  | false =>
    obtain ⟨hstarts, rfl⟩ := (select_eq_ok hopen).1 h
    refine (select_eq_ok hopen).2 ⟨fun item hitem => hstarts item (List.mem_filter.1 hitem).1, ?_⟩
    rw [List.filter_filter]
    simp only [Bool.and_self]

/-- **Two windows one behind the other** keep what starts in both of them. -/
theorem select_select {first last both : Window} (hfirst : first.isOpen = false)
    (hlast : last.isOpen = false) (hboth : both.isOpen = false)
    (hcontains : ∀ moment, both.contains moment = (first.contains moment && last.contains moment)) :
    both.select event items = .ok kept ↔
      ∃ between, first.select event items = .ok between ∧ last.select event between = .ok kept := by
  have hkeeps (e : NetworkEvent) : both.keeps e = (last.keeps e && first.keeps e) := by
    unfold keeps
    cases e.startMoment with
    | error e => rfl
    | ok moment => exact (hcontains moment).trans (Bool.and_comm _ _)
  have hfilter : (items.filter fun item => both.keeps (event item)) =
      (items.filter fun item => first.keeps (event item)).filter
        fun item => last.keeps (event item) := by
    rw [List.filter_filter]
    exact List.filter_congr fun item _ => hkeeps (event item)
  rw [select_eq_ok hboth, hfilter]
  constructor
  · rintro ⟨hstarts, hkept⟩
    refine ⟨_, (select_eq_ok hfirst).2 ⟨hstarts, rfl⟩, (select_eq_ok hlast).2 ⟨?_, hkept⟩⟩
    exact fun item hitem => hstarts item (List.mem_filter.1 hitem).1
  · rintro ⟨between, hbetween, hkept⟩
    obtain ⟨hstarts, rfl⟩ := (select_eq_ok hfirst).1 hbetween
    exact ⟨hstarts, ((select_eq_ok hlast).1 hkept).2⟩

end Window

/-! ## Windows by their ends -/

/-- A window is made of its ends, whose order matters only to errors. -/
theorem filterByReader_eq_ok :
    filterByReader read start stop event items = .ok kept ↔
      ∃ first last, Window.readEnd (Window.firstOf read) start = .ok first ∧
        Window.readEnd (Window.lastOf read) stop = .ok last ∧
        Window.select ⟨first, last⟩ event items = .ok kept := by
  constructor
  · intro h
    obtain ⟨window, hwindow, hselect⟩ := Except.bind_eq_ok.1 h
    obtain ⟨first, hfirst, hwindow⟩ := Except.bind_eq_ok.1 hwindow
    obtain ⟨last, hlast, hwindow⟩ := Except.bind_eq_ok.1 hwindow
    cases hwindow
    exact ⟨first, last, hfirst, hlast, Except.mapError_eq_ok.1 hselect⟩
  · rintro ⟨first, last, hfirst, hlast, hselect⟩
    refine Except.bind_eq_ok.2 ⟨⟨first, last⟩, ?_, Except.mapError_eq_ok.2 hselect⟩
    exact Except.bind_eq_ok.2 ⟨first, hfirst, Except.bind_eq_ok.2 ⟨last, hlast, rfl⟩⟩

theorem filterByReader_from {f : String} (hf : f ≠ "") :
    filterByReader read (some f) none event items = .ok kept ↔
      ∃ first, Window.firstOf read f = .ok first ∧
        Window.select ⟨some first, none⟩ event items = .ok kept := by
  simp only [filterByReader_eq_ok, Window.readEnd_some_eq_ok hf, Window.readEnd_none_eq_ok]
  constructor
  · rintro ⟨_, _, ⟨first, hfirst, rfl⟩, rfl, h⟩
    exact ⟨first, hfirst, h⟩
  · rintro ⟨first, hfirst, h⟩
    exact ⟨_, _, ⟨first, hfirst, rfl⟩, rfl, h⟩

theorem filterByReader_to {t : String} (ht : t ≠ "") :
    filterByReader read none (some t) event items = .ok kept ↔
      ∃ last, Window.lastOf read t = .ok last ∧
        Window.select ⟨none, some last⟩ event items = .ok kept := by
  simp only [filterByReader_eq_ok, Window.readEnd_some_eq_ok ht, Window.readEnd_none_eq_ok]
  constructor
  · rintro ⟨_, _, rfl, ⟨last, hlast, rfl⟩, h⟩
    exact ⟨last, hlast, h⟩
  · rintro ⟨last, hlast, h⟩
    exact ⟨_, _, rfl, ⟨last, hlast, rfl⟩, h⟩

theorem filterByReader_between {f t : String} (hf : f ≠ "") (ht : t ≠ "") :
    filterByReader read (some f) (some t) event items = .ok kept ↔
      ∃ first last, Window.firstOf read f = .ok first ∧ Window.lastOf read t = .ok last ∧
        Window.select ⟨some first, some last⟩ event items = .ok kept := by
  simp only [filterByReader_eq_ok, Window.readEnd_some_eq_ok hf, Window.readEnd_some_eq_ok ht]
  constructor
  · rintro ⟨_, _, ⟨first, hfirst, rfl⟩, ⟨last, hlast, rfl⟩, h⟩
    exact ⟨first, last, hfirst, hlast, h⟩
  · rintro ⟨first, last, hfirst, hlast, h⟩
    exact ⟨_, _, ⟨first, hfirst, rfl⟩, ⟨last, hlast, rfl⟩, h⟩

/-! ## Windows one behind the other -/

theorem Window.contains_between (first last moment : Moment) :
    contains ⟨some first, some last⟩ moment =
      (contains ⟨some first, none⟩ moment && contains ⟨none, some last⟩ moment) := by
  simp [contains]

/-- From one date on, and of that up to another. -/
theorem filterByReader_from_to {f t : String} (hf : f ≠ "") (ht : t ≠ "") :
    filterByReader read (some f) (some t) event items = .ok kept ↔
      (filterByReader read (some f) none event items >>=
        filterByReader read none (some t) event) = .ok kept := by
  rw [filterByReader_between hf ht, Except.bind_eq_ok]
  have hselect (first last : Moment) :
      Window.select ⟨some first, some last⟩ event items = .ok kept ↔
        ∃ later, Window.select ⟨some first, none⟩ event items = .ok later ∧
          Window.select ⟨none, some last⟩ event later = .ok kept :=
    Window.select_select rfl rfl rfl (Window.contains_between first last)
  constructor
  · rintro ⟨first, last, hfirst, hlast, h⟩
    obtain ⟨later, hlater, hkept⟩ := (hselect first last).1 h
    refine ⟨later, (filterByReader_from hf).2 ⟨first, hfirst, hlater⟩, ?_⟩
    exact (filterByReader_to ht).2 ⟨last, hlast, hkept⟩
  · rintro ⟨later, hlater, hkept⟩
    obtain ⟨first, hfirst, hlater⟩ := (filterByReader_from hf).1 hlater
    obtain ⟨last, hlast, hkept⟩ := (filterByReader_to ht).1 hkept
    exact ⟨first, last, hfirst, hlast, (hselect first last).2 ⟨later, hlater, hkept⟩⟩

/-- Up to one date, and of that from another on. -/
theorem filterByReader_to_from {f t : String} (hf : f ≠ "") (ht : t ≠ "") :
    filterByReader read (some f) (some t) event items = .ok kept ↔
      (filterByReader read none (some t) event items >>=
        filterByReader read (some f) none event) = .ok kept := by
  rw [filterByReader_between hf ht, Except.bind_eq_ok]
  have hselect (first last : Moment) :
      Window.select ⟨some first, some last⟩ event items = .ok kept ↔
        ∃ earlier, Window.select ⟨none, some last⟩ event items = .ok earlier ∧
          Window.select ⟨some first, none⟩ event earlier = .ok kept :=
    Window.select_select rfl rfl rfl fun moment =>
      (Window.contains_between first last moment).trans (Bool.and_comm _ _)
  constructor
  · rintro ⟨first, last, hfirst, hlast, h⟩
    obtain ⟨earlier, hearlier, hkept⟩ := (hselect first last).1 h
    refine ⟨earlier, (filterByReader_to ht).2 ⟨last, hlast, hearlier⟩, ?_⟩
    exact (filterByReader_from hf).2 ⟨first, hfirst, hkept⟩
  · rintro ⟨earlier, hearlier, hkept⟩
    obtain ⟨last, hlast, hearlier⟩ := (filterByReader_to ht).1 hearlier
    obtain ⟨first, hfirst, hkept⟩ := (filterByReader_from hf).1 hkept
    exact ⟨first, last, hfirst, hlast, (hselect first last).2 ⟨earlier, hearlier, hkept⟩⟩

theorem filterByReader_sublist (h : filterByReader read start stop event items = .ok kept) :
    kept.Sublist items := by
  obtain ⟨first, last, -, -, hselect⟩ := filterByReader_eq_ok.1 h
  exact Window.select_sublist hselect

/-- To filter twice is to filter once, also where it fails. -/
theorem filterByReader_again (read : DateReader) (start stop : Option String)
    (event : α → NetworkEvent) (items : List α) :
    (filterByReader read start stop event items >>= filterByReader read start stop event) =
      filterByReader read start stop event items := by
  cases hfilter : filterByReader read start stop event items with
  | error e => rfl
  | ok kept =>
    obtain ⟨first, last, hfirst, hlast, hselect⟩ := filterByReader_eq_ok.1 hfilter
    exact filterByReader_eq_ok.2 ⟨first, last, hfirst, hlast, Window.select_again hselect⟩

end

/-- **A window with two ends is two windows with one end each**, in either order: it keeps events
exactly if these do one behind the other, and then the same, in the order in which they stood. A
window that is used again changes nothing. -/
theorem filterByReader_compose {α : Type} (read : DateReader) {f t : String} (hf : f ≠ "")
    (ht : t ≠ "") (event : α → NetworkEvent) (items : List α) :
    (∀ kept, filterByReader read (some f) (some t) event items = .ok kept ↔
      (do
        let later ← filterByReader read (some f) none event items
        filterByReader read none (some t) event later) = .ok kept) ∧
    (∀ kept, filterByReader read (some f) (some t) event items = .ok kept ↔
      (do
        let earlier ← filterByReader read none (some t) event items
        filterByReader read (some f) none event earlier) = .ok kept) ∧
    (∀ kept, filterByReader read (some f) (some t) event items = .ok kept → kept.Sublist items) ∧
    ∀ start stop,
      (do
        let kept ← filterByReader read start stop event items
        filterByReader read start stop event kept) =
      filterByReader read start stop event items := by
  refine ⟨fun kept => filterByReader_from_to hf ht, fun kept => filterByReader_to_from hf ht, ?_, ?_⟩
  · intro kept hkept
    exact filterByReader_sublist hkept
  · intro start stop
    exact filterByReader_again read start stop event items

/-- Events at midnight, at noon and at the next midnight. -/
def eventsAroundNoon : List NetworkEvent :=
  ["\x7b\"startTime\": 0, \"endTime\": 10\x7d",
    "\x7b\"startTime\": 43200000, \"endTime\": 43200010\x7d",
    "\x7b\"startTime\": 86400000, \"endTime\": 86400010\x7d"].filterMap
    fun line => (LineReading.ofChars line.toList).event?

/-- Of these, the one at noon is kept from six o'clock on up to the end of the day, in each way. -/
theorem filterByReader_compose_noon :
    ∃ kept, filterByReader (readMoment .epochStart) (some "1970-01-01 06:00") (some "today") id
        eventsAroundNoon = .ok kept ∧ kept.length = 1 ∧
      (filterByReader (readMoment .epochStart) (some "1970-01-01 06:00") none id eventsAroundNoon >>=
        filterByReader (readMoment .epochStart) none (some "today") id) = .ok kept ∧
      (filterByReader (readMoment .epochStart) none (some "today") id eventsAroundNoon >>=
        filterByReader (readMoment .epochStart) (some "1970-01-01 06:00") none id) = .ok kept := by
  have hlength : (filterByReader (readMoment .epochStart) (some "1970-01-01 06:00") (some "today") id
      eventsAroundNoon).toOption.map List.length = some 1 := by
    decide +kernel
  obtain ⟨hfromTo, htoFrom, -, -⟩ := filterByReader_compose (readMoment .epochStart)
    (by decide : "1970-01-01 06:00" ≠ "") (by decide : "today" ≠ "") id eventsAroundNoon
  cases hkept : filterByReader (readMoment .epochStart) (some "1970-01-01 06:00") (some "today") id
      eventsAroundNoon with
  | error e =>
    rw [hkept] at hlength
    cases hlength
  | ok kept =>
    rw [hkept] at hlength
    exact ⟨kept, rfl, Option.some.inj hlength, (hfromTo kept).1 hkept, (htoFrom kept).1 hkept⟩

end NetTimeline
