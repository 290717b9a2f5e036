import NetTimeline.Proofs.Event.Window

/-!
# A window keeps an interval of start times

The moments of a window lie between its ends, and the moments at which events start are in the order
of their start times. So an event that starts between two kept ones is kept, whatever the roundings
in between do to the times, and a window cuts one block out of a list in the order of the starts.

Principal results:

* `List.filter_infix_of_between` — what a condition that holds between any two of its members keeps
  of a sorted list is a block of it;
* `Window.keeps_between` — a window keeps what starts between two events that it keeps;
* `filterByReader_interval` — so does the filter, and of a sorted list it keeps a block.
-/

set_option autoImplicit false

namespace NetTimeline

open Calendar (Moment readMoment)

/-! ## Blocks of a sorted list -/

section Block

variable {α : Type} {R : α → α → Prop} {p : α → Bool}

/-- Behind a member that a condition holds of, the others come first. -/
theorem List.filter_prefix_of_between
    (hbetween : ∀ a b c, R a b → R b c → p a = true → p c = true → p b = true) {a : α}
    {l : List α} (hsorted : (a :: l).Pairwise R) (ha : p a = true) : l.filter p <+: l := by
  induction l with
  | nil => exact List.prefix_rfl
  | cons b l ih =>
    obtain ⟨hafter, hrest⟩ := List.pairwise_cons.1 hsorted
    obtain ⟨hbehind, hlast⟩ := List.pairwise_cons.1 hrest
    cases hb : p b with
    | true =>
      have hskip : (a :: l).Pairwise R :=
        List.pairwise_cons.2 ⟨fun c hc => hafter c (List.mem_cons_of_mem b hc), hlast⟩
      rw [List.filter_cons_of_pos hb]
      exact (List.prefix_cons_inj b).2 (ih hskip)
    | false =>
      -- nothing behind the first that fails can hold again
      have hnone : ∀ c ∈ b :: l, ¬ p c = true := by
        intro c hc hholds
        rcases List.mem_cons.1 hc with rfl | hc
        · exact Bool.false_ne_true (hb.symm.trans hholds)
        · have hagain : p b = true :=
            hbetween a b c (hafter b List.mem_cons_self) (hbehind c hc) ha hholds
          exact Bool.false_ne_true (hb.symm.trans hagain)
      rw [List.filter_eq_nil_iff.2 hnone]
      exact List.nil_prefix

/-- A condition that holds between any two members it holds of, keeps a block of a sorted list. -/
theorem List.filter_infix_of_between
    (hbetween : ∀ a b c, R a b → R b c → p a = true → p c = true → p b = true) {l : List α}
    (hsorted : l.Pairwise R) : l.filter p <:+: l := by
  induction l with
  | nil => exact List.infix_rfl
  | cons a l ih =>
    cases ha : p a with
    | true =>
      have hblock : l.filter p <+: l := List.filter_prefix_of_between hbetween hsorted ha
      rw [List.filter_cons_of_pos ha]
      exact ((List.prefix_cons_inj a).2 hblock).isInfix
    | false =>
      have hrest : l.filter p <:+: l := ih (List.pairwise_cons.1 hsorted).2
      rw [List.filter_cons_of_neg (Bool.eq_false_iff.1 ha)]
      exact hrest.trans (List.suffix_cons a l).isInfix

end Block

/-! ## Windows -/

namespace Window

theorem contains_of_between {window : Window} {a b c : Moment} (hab : a ≤ b) (hbc : b ≤ c)
    (ha : window.contains a = true) (hc : window.contains c = true) : window.contains b = true := by
  obtain ⟨hfirst, -⟩ := contains_iff.1 ha
  obtain ⟨-, hlast⟩ := contains_iff.1 hc
  apply contains_iff.2
  constructor
  · intro first h
    exact Moment.le_trans (hfirst first h) hab
  · intro last h
    exact Moment.le_trans hbc (hlast last h)

/-- **A window keeps what starts between two events that it keeps.** -/
theorem keeps_of_between {window : Window} {a b c : NetworkEvent}
    (hab : a.startTime.units ≤ b.startTime.units) (hbc : b.startTime.units ≤ c.startTime.units)
    (hb : b.HasStart) (ha : window.keeps a = true) (hc : window.keeps c = true) :
    window.keeps b = true := by
  obtain ⟨first, hfirst, hfirstIn⟩ := keeps_iff.1 ha
  obtain ⟨last, hlast, hlastIn⟩ := keeps_iff.1 hc
  obtain ⟨moment, hmoment⟩ := hb
  have hfrom : first ≤ moment := NetworkEvent.startMoment_mono hfirst hmoment hab
  have hto : moment ≤ last := NetworkEvent.startMoment_mono hmoment hlast hbc
  exact keeps_iff.2 ⟨moment, hmoment, contains_of_between hfrom hto hfirstIn hlastIn⟩

variable {α : Type} {window : Window} {event : α → NetworkEvent} {items kept : List α}

/-- What starts between two kept items is kept. -/
theorem mem_select_of_between (h : window.select event items = .ok kept) {a b c : α}
    (ha : a ∈ kept) (hc : c ∈ kept) (hb : b ∈ items)
    (hab : (event a).startTime.units ≤ (event b).startTime.units)
    (hbc : (event b).startTime.units ≤ (event c).startTime.units) : b ∈ kept := by
  cases hopen : window.isOpen with
  | true =>
    rw [select, if_pos hopen] at h
    exact Except.ok.inj h ▸ hb
  | false =>
    obtain ⟨hstarts, rfl⟩ := (select_eq_ok hopen).1 h
    obtain ⟨-, hkeepsA⟩ := List.mem_filter.1 ha
    obtain ⟨-, hkeepsC⟩ := List.mem_filter.1 hc
    exact List.mem_filter.2 ⟨hb, keeps_of_between hab hbc (hstarts b hb) hkeepsA hkeepsC⟩

/-- Of a list in the order of the starts, a block is kept. -/
theorem select_infix (h : window.select event items = .ok kept)
    (hsorted : items.Pairwise fun a b => (event a).startTime.units ≤ (event b).startTime.units) :
    kept <:+: items := by
  cases hopen : window.isOpen with
  | true =>
    rw [select, if_pos hopen] at h
    obtain rfl : items = kept := Except.ok.inj h
    exact List.infix_rfl
  | false =>
    obtain ⟨hstarts, rfl⟩ := (select_eq_ok hopen).1 h
    have hordered : items.Pairwise fun a b =>
        (event a).startTime.units ≤ (event b).startTime.units ∧ (event b).HasStart :=
      hsorted.imp_of_mem fun _ hb hle => ⟨hle, hstarts _ hb⟩
    refine List.filter_infix_of_between ?_ hordered
    intro a b c hab hbc ha hc
    exact keeps_of_between hab.1 hbc.1 hab.2 ha hc

end Window

/-! ## The filter -/

/-- **A date window is an interval of start times.** Later start times are not earlier moments, so
what starts between two events that are kept is kept, and a list in the order of the starts loses
events at its two sides only. -/
theorem filterByReader_interval :
    (∀ (a b : NetworkEvent) (first later : Moment), a.startMoment = .ok first →
      b.startMoment = .ok later → a.startTime.units ≤ b.startTime.units → first ≤ later) ∧
    ∀ {α : Type} (read : DateReader) (start stop : Option String) (event : α → NetworkEvent)
      (items kept : List α), filterByReader read start stop event items = .ok kept →
      (∀ a ∈ kept, ∀ c ∈ kept, ∀ b ∈ items,
        (event a).startTime.units ≤ (event b).startTime.units →
        (event b).startTime.units ≤ (event c).startTime.units → b ∈ kept) ∧
      (items.Pairwise (fun a b => (event a).startTime.units ≤ (event b).startTime.units) →
        kept <:+: items) := by
  refine ⟨?_, ?_⟩
  · intro a b first later hfirst hlater hle
    exact NetworkEvent.startMoment_mono hfirst hlater hle
  · intro α read start stop event items kept h
    obtain ⟨first, last, -, -, hselect⟩ := filterByReader_eq_ok.1 h
    refine ⟨?_, ?_⟩
    · intro a ha c hc b hb hab hbc
      exact Window.mem_select_of_between hselect ha hc hb hab hbc
    · intro hsorted
      exact Window.select_infix hselect hsorted

/-- From noon on, the two later ones of the events around noon are kept. They stand side by side,
and nothing that starts between them is missing. -/
theorem filterByReader_interval_noon :
    ∃ a b c first later, eventsAroundNoon = [a, b, c] ∧ a.startMoment = .ok first ∧
      b.startMoment = .ok later ∧ first ≤ later ∧
      filterByReader (readMoment .epochStart) (some "1970-01-01 12:00") none id [a, b, c] =
        .ok [b, c] ∧
      (∀ x ∈ [a, b, c], b.startTime.units ≤ x.startTime.units →
        x.startTime.units ≤ c.startTime.units → x ∈ [b, c]) ∧
      [b, c] <:+: [a, b, c] := by
  have hlength : eventsAroundNoon.length = 3 := by decide +kernel
  have hstarts : ∀ e ∈ eventsAroundNoon, e.HasStart := by decide +kernel
  have hsorted : eventsAroundNoon.Pairwise fun a b => a.startTime.units ≤ b.startTime.units := by
    decide +kernel
  have hkept : filterByReader (readMoment .epochStart) (some "1970-01-01 12:00") none id
      eventsAroundNoon = .ok (eventsAroundNoon.drop 1) := by
    decide +kernel
  obtain ⟨a, b, c, hevents⟩ := List.length_eq_three.1 hlength
  rw [hevents] at hstarts hsorted hkept
  obtain ⟨first, hfirst⟩ := hstarts a (by simp)
  obtain ⟨later, hlater⟩ := hstarts b (by simp)
  obtain ⟨hmono, hfilter⟩ := filterByReader_interval
  obtain ⟨hbetween, hblock⟩ := hfilter (readMoment .epochStart) (some "1970-01-01 12:00") none id
    [a, b, c] [b, c] hkept
  have hab : a.startTime.units ≤ b.startTime.units := List.rel_of_pairwise_cons hsorted (by simp)
  exact ⟨a, b, c, first, later, hevents, hfirst, hlater, hmono a b first later hfirst hlater hab,
    hkept, hbetween b (by simp) c (by simp), hblock hsorted⟩

end NetTimeline
