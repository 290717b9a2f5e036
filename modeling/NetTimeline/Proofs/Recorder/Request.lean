import NetTimeline.Proofs.Number.Range
import NetTimeline.Recorder.Wait

/-!
# What becomes of a wait at one look

A wait for a whole number of events, at least one, and for a time that is not negative can be asked
for exactly if the time converts. One look at the events then says whether they are enough, and, if
they are not, whether the wait fails. Three ways to fail are no timeout, and each is a condition on
the request: the time does not convert, the time is too long for a clock, or the number of events
has too many digits for the message.

Principal results:

* `WaitRequest.check_eq` — which waits can be asked for;
* `WaitRequest.pass_int` — a look, for a whole number of events;
* `WaitRequest.timedOut_int` — the failure of a wait whose time is over;
* `WaitRequest.ended_int` — the ways in which a look ends a wait.
-/

set_option autoImplicit false

namespace NetTimeline

namespace WaitRequest

variable {count : Int} {request : WaitRequest} {elapsed : Bool}
  {events : List NetworkEvent} {got : Nat}

/-! ## Before the first look -/

/-- **A wait can be asked for** exactly if its time converts. -/
theorem check_eq (hcount : request.count = .int count) (hone : 1 ≤ count)
    (htimeout : Number.le (.int 0) request.timeout = true) :
    (request.timeout.Converts ∧ request.check = .ok ()) ∨
      (¬ request.timeout.Converts ∧ request.check = .error (.number .wholeTooLarge)) := by
  have hfew : Number.lt (.int count) (.int 1) = false := by
    rw [Number.lt_int_int, decide_eq_false_iff_not]
    omega
  unfold check
  simp only [hcount, hfew, Number.lt_eq_false_of_le htimeout, Bool.false_eq_true, if_false]
  by_cases hc : request.timeout.Converts
  · obtain ⟨x, hx⟩ := Number.exists_toBinary64 hc
    exact .inl ⟨hc, by rw [hx]⟩
  · exact .inr ⟨hc, by rw [Number.toBinary64_eq_error hc]⟩

/-- No wait is refused with a timeout. -/
theorem check_ne_timedOut {wanted text : String} {shown : Nat} :
    request.check ≠ .error (.timedOut wanted shown text) := by
  unfold check showing
  cases request.count.text <;> cases request.timeout.text <;>
    cases request.timeout.toBinary64 <;> simp [ite_eq_iff]

/-! ## One look -/

/-- A look, for a whole number of events. -/
theorem pass_int (hcount : request.count = .int count) :
    request.pass elapsed events =
      if (events.length : Int) < count then
        if request.isOver elapsed then .failed (request.timedOut events.length)
        else if request.isTooLong then .failed .timeoutTooLong
        else .waiting
      else .awaited events := by
  simp only [pass, hcount, Number.lt_int_int, decide_eq_true_eq]

/-- What is awaited is what there is, and it is enough. -/
theorem enough_of_awaited {seen : List NetworkEvent}
    (h : request.pass elapsed events = .awaited seen) :
    seen = events ∧ ∀ count : Int, request.count = .int count → count ≤ events.length := by
  obtain ⟨henough, rfl⟩ := pass_awaited_iff.1 h
  refine ⟨rfl, fun count hcount => ?_⟩
  rw [hcount, Number.lt_int_int, decide_eq_false_iff_not] at henough
  omega

theorem timedOut_eq_timedOut {wanted text : String} {shown : Nat} :
    request.timedOut got = .timedOut wanted shown text ↔
      request.count.text = .ok wanted ∧ shown = got ∧ request.timeout.text = .ok text := by
  unfold timedOut showing
  cases request.count.text <;> cases request.timeout.text <;> simp [eq_comm]

/-- The failure of a wait whose time is over: a timeout, if the number of events can be shown. -/
theorem timedOut_int (got : Nat) (hcount : request.count = .int count)
    (hc : request.timeout.Converts) :
    (decimalLength count.natAbs ≤ maxIntDigits ∧ ∃ text, request.timeout.text = .ok text ∧
      request.timedOut got = .timedOut (intNumeral count) got text) ∨
    (maxIntDigits < decimalLength count.natAbs ∧
      request.timedOut got = .number .tooManyDigits) := by
  obtain ⟨text, htext⟩ := Number.exists_text hc
  rcases Nat.lt_or_ge maxIntDigits (decimalLength count.natAbs) with hmany | hfew
  · right
    simp [timedOut, showing, hcount, Number.text, Nat.not_le.2 hmany, hmany]
  · refine .inl ⟨hfew, text, htext, timedOut_eq_timedOut.2 ⟨?_, rfl, htext⟩⟩
    rw [hcount, Number.text, if_pos hfew]

/-- A look that fails with a timeout tells how many events there are, and they are too few. -/
theorem few_of_timedOut {wanted text : String}
    (h : request.pass elapsed events = .failed (.timedOut wanted got text)) :
    got = events.length ∧ ∀ count : Int, request.count = .int count →
      wanted = intNumeral count ∧ events.length < count := by
  unfold pass at h
  split at h
  · rename_i hlt
    split at h
    · obtain ⟨hwanted, hgot, -⟩ := timedOut_eq_timedOut.1 (WaitStatus.failed.inj h)
      refine ⟨hgot, fun count hcount => ?_⟩
      rw [hcount, Number.lt_int_int, decide_eq_true_eq] at hlt
      rw [hcount, Number.text] at hwanted
      split at hwanted
      · exact ⟨(Except.ok.inj hwanted).symm, hlt⟩
      · cases hwanted
    · split at h <;> cases h
  · cases h

/-- A time that is not negative is over once the clock has moved on by it, unless it is too long. -/
theorem isOver_true (htimeout : Number.le (.int 0) request.timeout = true)
    (hlong : request.isTooLong = false) : request.isOver true = true := by
  have hplace : request.timeout.place?.isSome = true := by
    unfold Number.le at htimeout
    split at htimeout
    · rename_i hp
      rw [hp]
      rfl
    · cases htimeout
  simp [isOver, hplace, hlong]

/-- A time that is over is not too long. -/
theorem not_isTooLong_of_isOver (hover : request.isOver elapsed = true) :
    request.isTooLong = false := by
  by_contra hlong
  have h : request.isTooLong = true := by simpa using hlong
  have hlate : request.timeout.le (.int 0) = false := by
    unfold isTooLong at h
    unfold Number.le
    cases hplace : request.timeout.place? with
    | none => rfl
    | some place =>
      cases place with
      | negativeInfinity => simp [hplace] at h
      | positiveInfinity => rfl
      | units n =>
        have hlimit : (0 : Int) < (clockLimit * unitsPerOne : Nat) := by decide +kernel
        simp only [hplace, decide_eq_true_eq] at h
        simp only [Number.place?, decide_eq_false_iff_not, Place.units_le_units]
        omega
  simp [isOver, h, hlate] at hover

/-! ## The ways in which a look ends a wait -/

/-- A look that leaves the thread waiting finds too few events in time. -/
theorem on_time_of_waiting (hcount : request.count = .int count)
    (htimeout : Number.le (.int 0) request.timeout = true)
    (h : request.pass elapsed events = .waiting) :
    events.length < count ∧ elapsed = false ∧ request.isTooLong = false := by
  rw [pass_int hcount] at h
  split at h
  · rename_i hfew
    split at h
    · cases h
    · rename_i hover
      split at h
      · cases h
      · rename_i hlong
        rw [Bool.not_eq_true] at hover hlong
        refine ⟨hfew, ?_, hlong⟩
        cases elapsed with
        | false => rfl
        | true => rw [isOver_true htimeout hlong] at hover; cases hover
  · cases h

/-- The ways in which a look ends a wait for some events whose time converts. -/
inductive Ended (request : WaitRequest) (count : Int) (elapsed : Bool)
    (events : List NetworkEvent) : WaitStatus → Prop where
  /-- There are enough events. -/
  | enough (henough : count ≤ events.length) : Ended request count elapsed events (.awaited events)
  /-- There are too few, and the time is over. -/
  | late {text : String} (hfew : events.length < count) (hlong : request.isTooLong = false)
    (hover : request.isOver elapsed = true) (hdigits : decimalLength count.natAbs ≤ maxIntDigits)
    (htext : request.timeout.text = .ok text) :
    Ended request count elapsed events
      (.failed (.timedOut (intNumeral count) events.length text))
  /-- The time is over as well, but the message cannot be written. -/
  | unwritable (hfew : events.length < count) (hlong : request.isTooLong = false)
    (hover : request.isOver elapsed = true) (hdigits : maxIntDigits < decimalLength count.natAbs) :
    Ended request count elapsed events (.failed (.number .tooManyDigits))
  /-- There are too few events, and no clock counts so long a time. -/
  | uncounted (hfew : events.length < count) (hlong : request.isTooLong = true) :
    Ended request count elapsed events (.failed .timeoutTooLong)

theorem ended_int (hcount : request.count = .int count) (hc : request.timeout.Converts)
    (h : request.pass elapsed events ≠ .waiting) :
    request.Ended count elapsed events (request.pass elapsed events) := by
  rw [pass_int hcount] at h ⊢
  split
  · rename_i hfew
    rw [if_pos hfew] at h
    split
    · rename_i hover
      have hlong : request.isTooLong = false := not_isTooLong_of_isOver hover
      obtain ⟨hdigits, text, htext, herror⟩ | ⟨hdigits, herror⟩ :=
        timedOut_int events.length hcount hc
      · rw [herror]
        exact .late hfew hlong hover hdigits htext
      · rw [herror]
        exact .unwritable hfew hlong hover hdigits
    · rename_i hover
      rw [if_neg hover] at h
      split
      · rename_i hlong
        exact .uncounted hfew hlong
      · rename_i hlong
        exact absurd (if_neg hlong) h
  · rename_i henough
    exact .enough (by omega)

end WaitRequest

end NetTimeline
