import NetTimeline.Event.Span
import NetTimeline.Event.Window
import NetTimeline.Log.Line
import NetTimeline.Proofs.Number.Range

/-!
# The span grows with the events

The exact span of events is a natural number of units, since no event ends before it starts, and it
does not shrink when events are added: the earliest start can only become earlier and the latest end
later. The span is its rounding. Rounding is monotone, up to the infinite value that stands for all
differences beyond the finite ones, so whatever holds of the exact span holds of the rounded one.

Principal results:

* `place?_eventSpan` — where the span lies: at the rounding of the exact one;
* `eventSpan_le_of_subset` — more events do not span less;
* `eventSpan_laws` — the span is not negative, covers each event, and grows with the events.
-/

set_option autoImplicit false

namespace NetTimeline

/-! ## The earliest start and the latest end -/

/-- A fold that chooses one of two values chooses from all of them. -/
theorem List.foldl_mem_of_choice {α β : Type} {f : β → β → β} (h : ∀ a b, f a b = a ∨ f a b = b)
    (g : α → β) (as : List α) (init : β) :
    as.foldl (fun b a => f b (g a)) init ∈ init :: as.map g := by
  induction as generalizing init with
  | nil => exact List.mem_cons_self
  | cons a as ih =>
    rw [List.foldl_cons, List.map_cons]
    rcases List.mem_cons.1 (ih (f init (g a))) with hchosen | hlater
    · rw [hchosen]
      rcases h init (g a) with hinit | ha
      · rw [hinit]
        exact List.mem_cons_self
      · rw [ha]
        exact List.mem_cons_of_mem _ List.mem_cons_self
    · exact List.mem_cons_of_mem _ (List.mem_cons_of_mem _ hlater)

theorem Finite64.min_eq_or (a b : Finite64) : a.min b = a ∨ a.min b = b := by
  unfold Finite64.min
  split
  · exact .inr rfl
  · exact .inl rfl

theorem Finite64.max_eq_or (a b : Finite64) : a.max b = a ∨ a.max b = b := by
  unfold Finite64.max
  split
  · exact .inr rfl
  · exact .inl rfl

section

variable {event other : NetworkEvent} {events others : List NetworkEvent}

theorem exists_earliestStart (event : NetworkEvent) (events : List NetworkEvent) :
    ∃ e ∈ event :: events, e.startTime = earliestStart event events :=
  List.mem_map.1 (List.foldl_mem_of_choice Finite64.min_eq_or NetworkEvent.startTime events _)

theorem exists_latestEnd (event : NetworkEvent) (events : List NetworkEvent) :
    ∃ e ∈ event :: events, e.endTime = latestEnd event events :=
  List.mem_map.1 (List.foldl_mem_of_choice Finite64.max_eq_or NetworkEvent.endTime events _)

/-- The earliest start is not after the latest end. -/
theorem earliestStart_le_latestEnd (event : NetworkEvent) (events : List NetworkEvent) :
    (earliestStart event events).units ≤ (latestEnd event events).units :=
  calc (earliestStart event events).units
      ≤ event.startTime.units := earliestStart_le List.mem_cons_self
    _ ≤ event.endTime.units := event.inOrder
    _ ≤ (latestEnd event events).units := le_latestEnd List.mem_cons_self

/-- More events do not start later. -/
theorem earliestStart_le_of_subset (h : other :: others ⊆ event :: events) :
    (earliestStart event events).units ≤ (earliestStart other others).units := by
  obtain ⟨e, he, hstart⟩ := exists_earliestStart other others
  rw [← hstart]
  exact earliestStart_le (h he)

/-- More events do not end earlier. -/
theorem latestEnd_le_of_subset (h : other :: others ⊆ event :: events) :
    (latestEnd other others).units ≤ (latestEnd event events).units := by
  obtain ⟨e, he, hend⟩ := exists_latestEnd other others
  rw [← hend]
  exact le_latestEnd (h he)

end

/-! ## Rounding to a place -/

/-- The place of the binary64 value nearest to a number of units; infinite beyond the finite
values. -/
def Place.rounded (n : Nat) : Place :=
  if roundToGrid n 1 < unitsLimit then .units (roundToGrid n 1) else .positiveInfinity

theorem Place.rounded_of_lt {n : Nat} (h : n < wholeBound * unitsPerOne) :
    rounded n = .units (roundToGrid n 1) :=
  if_pos ((roundToGrid_lt_unitsLimit_iff (by decide)).2 (by rwa [Nat.mul_one]))

theorem Place.rounded_of_le {n : Nat} (h : wholeBound * unitsPerOne ≤ n) :
    rounded n = .positiveInfinity := by
  refine if_neg fun hround => ?_
  have hlt := (roundToGrid_lt_unitsLimit_iff (by decide)).1 hround
  rw [Nat.mul_one] at hlt
  exact Nat.not_lt.2 h hlt

theorem Place.rounded_zero : rounded 0 = .units 0 := by
  rw [rounded_of_lt wholeBound_units_pos, roundToGrid_one onGrid_zero]
  rfl

theorem Place.rounded_mono {m n : Nat} (h : m ≤ n) : rounded m ≤ rounded n := by
  by_cases hn : n < wholeBound * unitsPerOne
  · rw [rounded_of_lt hn, rounded_of_lt (Nat.lt_of_le_of_lt h hn), units_le_units, Int.ofNat_le]
    exact roundToGrid_mono (by decide) (by decide) (Nat.mul_le_mul_right 1 h)
  · rw [rounded_of_le (Nat.not_lt.1 hn)]
    cases rounded m <;> trivial

theorem Binary64.place?_ofRatio (n : Nat) : (ofRatio false n 1).place? = some (.rounded n) := by
  by_cases hn : n < wholeBound * unitsPerOne
  · obtain ⟨x, hx⟩ : ∃ x, ofRatio false n 1 = .finite x :=
      (ofRatio_finite_iff (by decide)).2 (by rwa [Nat.mul_one])
    obtain ⟨hsign, hunits⟩ := eq_of_ofRatio hx
    have hplace : (Number.float (.finite x)).LiesAt (roundToGrid n 1) :=
      .finite hunits fun hnegative => absurd (hsign.symm.trans hnegative) Bool.false_ne_true
    rw [hx, Place.rounded_of_lt hn]
    exact hplace
  · have hbeyond : wholeBound * unitsPerOne * 1 ≤ n := by
      rw [Nat.mul_one]
      exact Nat.not_lt.1 hn
    rw [(ofRatio_infinite_iff (by decide)).2 hbeyond, Place.rounded_of_le (Nat.not_lt.1 hn)]
    rfl

theorem Binary64.eq_infinite_of_place? {x : Binary64} (h : x.place? = some .positiveInfinity) :
    x = .infinite false := by
  match x, h with
  | .infinite false, _ => rfl

/-- Equal values differ by a zero of either sign. -/
theorem Finite64.sub_of_eq {x y : Finite64} (h : x.units = y.units) :
    x.sub y = .finite ⟨x.negative && !y.negative, .zero⟩ :=
  if_pos (Int.sub_eq_zero.2 h)

theorem Finite64.sub_of_ne {x y : Finite64} (h : x.units ≠ y.units) :
    x.sub y = .ofRatio (decide (x.units - y.units < 0)) (x.units - y.units).natAbs 1 :=
  if_neg fun hzero => h (Int.sub_eq_zero.1 hzero)

theorem Finite64.units_zero (negative : Bool) :
    (Finite64.mk negative .zero).units = 0 := by
  cases negative <;> rfl

/-- Where the difference of two values in order lies. -/
theorem Finite64.place?_sub_of_le {x y : Finite64} (h : y.units ≤ x.units) :
    (x.sub y).place? = some (.rounded (x.units - y.units).toNat) := by
  by_cases hequal : x.units = y.units
  · rw [sub_of_eq hequal, hequal, Int.sub_self]
    simp only [Binary64.place?, place, units_zero, Int.toNat_zero, Place.rounded_zero]
  · have hnonnegative : ¬ x.units - y.units < 0 := by omega
    have hsize : (x.units - y.units).natAbs = (x.units - y.units).toNat := by omega
    rw [sub_of_ne hequal, decide_eq_false hnonnegative, hsize]
    exact Binary64.place?_ofRatio _

/-! ## The exact span -/

/-- The span of events before it is rounded, in units. -/
def exactSpan : List NetworkEvent → Nat
  | [] => 0
  | event :: events =>
    ((latestEnd event events).units - (earliestStart event events).units).toNat

theorem exactSpan_le_of_subset {events more : List NetworkEvent} (h : events ⊆ more) :
    exactSpan events ≤ exactSpan more := by
  cases events with
  | nil => exact Nat.zero_le _
  | cons event events =>
    cases more with
    | nil => exact absurd (h List.mem_cons_self) List.not_mem_nil
    | cons other more =>
      have hstart := earliestStart_le_of_subset h
      have hend := latestEnd_le_of_subset h
      exact Int.toNat_le_toNat (Int.sub_le_sub hend hstart)

/-! ## The span -/

/-- **The span lies at the rounding of the exact one.** -/
theorem place?_eventSpan (events : List NetworkEvent) :
    (eventSpan events).place? = some (.rounded (exactSpan events)) := by
  cases events with
  | nil => exact congrArg some Place.rounded_zero.symm
  | cons event events => exact Finite64.place?_sub_of_le (earliestStart_le_latestEnd event events)

/-- **More events do not span less.** -/
theorem eventSpan_le_of_subset {events more : List NetworkEvent} (h : events ⊆ more) :
    Number.le (.float (eventSpan events)) (.float (eventSpan more)) = true := by
  simp only [Number.le, Number.place?, place?_eventSpan, decide_eq_true_eq]
  exact Place.rounded_mono (exactSpan_le_of_subset h)

/-- A single event spans its own time. -/
theorem eventSpan_singleton (event : NetworkEvent) : eventSpan [event] = event.totalTime := rfl

/-- The events that a date window keeps are some of all events. -/
theorem subset_of_filterByDate {α : Type} {present : Calendar.Moment} {start stop : Option String}
    {event : α → NetworkEvent} {items kept : List α}
    (h : filterByDate present start stop event items = .ok kept) : kept ⊆ items := by
  obtain ⟨window, -, hselect⟩ := Except.bind_eq_ok.1 h
  exact (Window.select_sublist (Except.mapError_eq_ok.1 hselect)).subset

/-- **The laws of the span of events**: it is a number that is not negative, it covers the time of
each event, it does not shrink when events are added, and so it is not greater for the events that
a window keeps, whatever the dates stand for that it is made of. All this holds of the rounded
difference, also where it is infinite. -/
theorem eventSpan_laws (events : List NetworkEvent) :
    eventSpan events ≠ .nan ∧ Number.le (.int 0) (.float (eventSpan events)) = true ∧
    (∀ event ∈ events,
      Number.le (.float event.totalTime) (.float (eventSpan events)) = true) ∧
    (∀ more, events ⊆ more →
      Number.le (.float (eventSpan events)) (.float (eventSpan more)) = true) ∧
    (∀ (window : Window) (kept : List NetworkEvent), window.select id events = .ok kept →
      Number.le (.float (eventSpan kept)) (.float (eventSpan events)) = true) ∧
    ∀ present start stop kept, filterByDate present start stop id events = .ok kept →
      Number.le (.float (eventSpan kept)) (.float (eventSpan events)) = true := by
  refine ⟨?_, ?_, ?_, fun more h => eventSpan_le_of_subset h, ?_, ?_⟩
  · intro hnan
    have hplace := place?_eventSpan events
    rw [hnan] at hplace
    cases hplace
  · -- zero is the span of no events
    exact eventSpan_le_of_subset (List.nil_subset events)
  · intro event hmem
    rw [← eventSpan_singleton]
    exact eventSpan_le_of_subset (List.cons_subset.2 ⟨hmem, List.nil_subset _⟩)
  · intro window kept hkept
    exact eventSpan_le_of_subset (Window.select_sublist hkept).subset
  · intro present start stop kept hkept
    exact eventSpan_le_of_subset (subset_of_filterByDate hkept)

/-- Two events, a day apart. -/
def eventsDayApart : List NetworkEvent :=
  ["\x7b\"startTime\": 0, \"endTime\": 1500\x7d",
    "\x7b\"startTime\": 86400000, \"endTime\": 86400250.5\x7d"].filterMap
    fun line => (LineReading.ofChars line.toList).event?

/-- The two events and one whose own time is beyond the finite values. -/
def eventsWithEndless : List NetworkEvent :=
  eventsDayApart ++ ["\x7b\"startTime\": -1.7e308, \"endTime\": 1.7e308\x7d"].filterMap
    fun line => (LineReading.ofChars line.toList).event?

/-- An infinite span covers the events of two days, and these the one of the second day. -/
theorem eventSpan_laws_endless :
    eventSpan eventsWithEndless = .infinite false ∧ eventsDayApart.length = 2 ∧
      Number.le (.float (eventSpan eventsDayApart)) (.float (eventSpan eventsWithEndless)) = true ∧
      (∀ event ∈ eventsWithEndless,
        Number.le (.float event.totalTime) (.float (eventSpan eventsWithEndless)) = true) ∧
      ∃ kept, filterByDate .epochStart (some "1970-01-02") none id eventsDayApart = .ok kept ∧
        kept.length = 1 ∧
        Number.le (.float (eventSpan kept)) (.float (eventSpan eventsDayApart)) = true := by
  have hkept : (filterByDate .epochStart (some "1970-01-02") none id eventsDayApart).toOption.map
      List.length = some 1 := by
    decide +kernel
  obtain ⟨kept, hfilter⟩ := Except.exists_of_isOk (by decide +kernel :
    (filterByDate .epochStart (some "1970-01-02") none id eventsDayApart).isOk = true)
  rw [hfilter] at hkept
  obtain ⟨-, -, -, hgrowth, -, hwindow⟩ := eventSpan_laws eventsDayApart
  obtain ⟨-, -, hcovers, -, -, -⟩ := eventSpan_laws eventsWithEndless
  exact ⟨by decide +kernel, by decide +kernel, hgrowth _ (List.subset_append_left _ _), hcovers,
    kept, hfilter, Option.some.inj hkept, hwindow _ _ _ _ hfilter⟩

end NetTimeline
