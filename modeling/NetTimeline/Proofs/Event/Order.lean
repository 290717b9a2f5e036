import NetTimeline.Proofs.Event.Growth
import NetTimeline.Proofs.Outcome

/-!
# The order of events does not matter

Neither to their span, which is made of the least start and the greatest end, nor to a date window,
which asks each event for itself. Of equal times the first one counts, so the order can change the
sign of a span of zero; its place is the same.

Principal results:

* `eventSpan_perm` — the span of the same events lies at the same place;
* `filterByReader_perm` — a window keeps the same events, or fails, whatever their order.
-/

set_option autoImplicit false

namespace NetTimeline

/-! ## The span -/

/-- **The order of events does not matter to where their span lies.** -/
theorem eventSpan_perm {events others : List NetworkEvent} (h : events.Perm others) :
    (eventSpan events).place? = (eventSpan others).place? := by
  have hexact : exactSpan events = exactSpan others :=
    Nat.le_antisymm (exactSpan_le_of_subset h.subset) (exactSpan_le_of_subset h.symm.subset)
  rw [place?_eventSpan, place?_eventSpan, hexact]

/-! ## Date windows -/

namespace Window

variable {α : Type} {items others : List α}

theorem keep_perm (window : Window) (event : α → NetworkEvent) (h : items.Perm others) :
    SameOutcome List.Perm (window.keep event items) (window.keep event others) := by
  induction h with
  | nil => exact .ok .nil
  | cons item _ ih =>
    refine (SameOutcome.refl (fun _ => rfl) (event item).startMoment).bind ?_
    rintro moment _ rfl
    refine ih.bind fun kept kept' hperm => .ok ?_
    cases window.contains moment with
    | true => exact hperm.cons item
    | false => exact hperm
  | swap item other items =>
    simp only [keep, bind_assoc, pure_bind]
    refine .bind_comm fun moment moment' => ?_
    refine (SameOutcome.refl (fun _ => rfl) (window.keep event items)).bind ?_
    rintro kept _ rfl
    refine .ok ?_
    cases window.contains moment with
    | true =>
      cases window.contains moment' with
      | true => exact .swap item other kept
      | false => exact .refl _
    | false => exact .refl _
  | trans _ _ ih ih' => exact ih.trans ih' fun _ _ _ => List.Perm.trans

theorem select_perm (window : Window) (event : α → NetworkEvent) (h : items.Perm others) :
    SameOutcome List.Perm (window.select event items) (window.select event others) := by
  unfold select
  split
  · exact .ok h
  · exact keep_perm window event h

end Window

/-- **The order of events does not matter to a date window**, also where it fails, and whatever
reads its dates. -/
theorem filterByReader_perm {α : Type} {items others : List α} (read : DateReader)
    (start stop : Option String) (event : α → NetworkEvent) (h : items.Perm others) :
    SameOutcome List.Perm (filterByReader read start stop event items)
      (filterByReader read start stop event others) := by
  refine (SameOutcome.refl (fun _ => rfl) (Window.ofReader read start stop)).bind ?_
  rintro window _ rfl
  exact (Window.select_perm window event h).mapError _ _

end NetTimeline
