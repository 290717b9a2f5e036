import NetTimeline.Proofs.Axis.Existence

/-!
# Which arguments have no axis

`Axis.divide` answers in one of four ways. There is an axis; or the arguments are refused, since
the number of intervals is not a whole number of at least one or the span is negative, infinite or
a NaN; or a whole number among the arguments is too large to be converted; or a number of intervals
below one has too many digits for the message that refuses it. The last two are not refusals, and
the arguments need not be wrong: a span of one millisecond has no axis of `10 ^ 400` intervals.

Principal result: `Axis.divide_outcome` — the exact condition for each of the four.
-/

set_option autoImplicit false

namespace NetTimeline

/-- Whether the error refuses an argument of the axis. -/
def AxisError.isRefusal : AxisError → Bool
  | .ticksNotWhole _ | .ticksBelowOne _ | .spanNotUsable _ => true
  | .number _ | .fieldTooLarge _ => false

theorem AxisError.ne_number {e : AxisError} (h : e.isRefusal = true) (m : NumberError) :
    e ≠ .number m := by
  rintro rfl
  cases h

/-- The number is finite and not negative. -/
def Number.Usable : Number → Prop
  | .int n => 0 ≤ n
  | .float x => ∃ y : Finite64, x = .finite y ∧ 0 ≤ y.units

theorem Number.usable_iff {a : Number} : a.Usable ↔ ∃ u, a.LiesAt u := by
  constructor
  · intro h
    cases a with
    | int n =>
      obtain ⟨m, rfl⟩ := Int.eq_ofNat_of_zero_le h
      exact ⟨_, LiesAt.int m⟩
    | float x =>
      obtain ⟨y, rfl, hy⟩ := h
      refine ⟨y.units.toNat, ?_⟩
      simp only [LiesAt, place?, Binary64.place?, Finite64.place, Int.toNat_of_nonneg hy]
  · rintro ⟨u, h⟩
    cases a with
    | int n =>
      obtain ⟨m, rfl, -⟩ := h.eq_int
      exact Int.natCast_nonneg m
    | float x =>
      obtain ⟨y, rfl, -, -⟩ := h.eq_float
      refine ⟨y, rfl, ?_⟩
      have hunits : y.units = u := by simpa [LiesAt, place?, Binary64.place?, Finite64.place] using h
      omega

namespace Ruler

/-! ## The checks of the arguments -/

theorem usableSpan_tooLarge {span : Number} (hc : ¬ span.Converts) :
    usableSpan span = .error (.number .wholeTooLarge) := by
  unfold usableSpan
  rw [Number.toBinary64_eq_error hc]
  rfl

theorem usableSpan_refused {span : Number} (hc : span.Converts) (h : ¬ span.Usable) :
    ∃ given, usableSpan span = .error (.spanNotUsable given) := by
  obtain ⟨x, hx⟩ := Number.exists_toBinary64 hc
  obtain ⟨given, hgiven⟩ := Number.exists_text hc
  refine ⟨given, ?_⟩
  rw [usableSpan, hx]
  simp only [AxisError.ofNumber, bind, Except.bind]
  split
  · rename_i y hlt
    exact absurd (Number.usable_iff.2 (Number.LiesAt.of_toBinary64 hx hlt)) h
  · rw [hgiven]

/-- A request that is not a whole number is refused. -/
theorem wantedTicks_notWhole {request : TickRequest}
    (h : ∀ ticks : Int, request ≠ .number (.int ticks)) :
    ∃ given, wantedTicks request = .error (.ticksNotWhole given) := by
  cases request with
  | number n =>
    cases n with
    | int ticks => exact absurd rfl (h ticks)
    | float x => exact ⟨_, rfl⟩
  | flag b => exact ⟨_, rfl⟩
  | text s => exact ⟨_, rfl⟩
  | absent => exact ⟨_, rfl⟩

theorem wantedTicks_belowOne {ticks : Int} (h : ticks < 1) :
    wantedTicks (.number (.int ticks)) =
      if decimalLength ticks.natAbs ≤ maxIntDigits then .error (.ticksBelowOne (intNumeral ticks))
      else .error (.number .tooManyDigits) := by
  simp only [wantedTicks, if_pos h, Number.text]
  split <;> rfl

theorem forSpan_tooLarge {span : Number} {ticks : Nat} (h : ¬ span.DividesBy ticks) :
    forSpan span ticks = .error .wholeTooLarge := by
  rw [forSpan, chooseStep, Number.div_eq_error h]
  rfl

end Ruler

namespace Axis

/-- At least one whole interval of a span that is finite and not negative is asked for. -/
def Admits (span : Number) (request : TickRequest) : Prop :=
  ∃ ticks : Int, request = .number (.int ticks) ∧ 1 ≤ ticks ∧ span.Usable

/-- The span is a whole number too large to be converted, or it is a usable binary64 value and the
number of intervals is too large to be converted. -/
def TooLarge (span : Number) (request : TickRequest) : Prop :=
  ∃ ticks : Int, request = .number (.int ticks) ∧ 1 ≤ ticks ∧
    (¬ span.Converts ∨ (span.Usable ∧ ¬ span.DividesBy ticks.toNat))

/-- The number of intervals is below one and has more digits than a message holds. -/
def Unwritable (request : TickRequest) : Prop :=
  ∃ ticks : Int, request = .number (.int ticks) ∧ ticks < 1 ∧
    maxIntDigits < decimalLength ticks.natAbs

theorem Unwritable.not_tooLarge {span : Number} {request : TickRequest} (h : Unwritable request) :
    ¬ TooLarge span request := by
  rintro ⟨m, rfl, hone, -⟩
  obtain ⟨n, hn, hbelow, -⟩ := h
  cases hn
  omega

/-! ## One kind of arguments at a time -/

theorem divide_notWhole {request : TickRequest} (span : Number)
    (h : ∀ ticks : Int, request ≠ .number (.int ticks)) :
    ∃ e, divide span request = .error e ∧ e.isRefusal = true := by
  obtain ⟨given, hgiven⟩ := Ruler.wantedTicks_notWhole h
  refine ⟨.ticksNotWhole given, ?_, rfl⟩
  rw [divide, hgiven]
  rfl

theorem divide_belowOne {ticks : Int} (span : Number) (h : ticks < 1) :
    divide span (.number (.int ticks)) =
      if decimalLength ticks.natAbs ≤ maxIntDigits then .error (.ticksBelowOne (intNumeral ticks))
      else .error (.number .tooManyDigits) := by
  rw [divide, Ruler.wantedTicks_belowOne h]
  split <;> rfl

theorem divide_of_one_le {ticks : Int} (span : Number) (h : 1 ≤ ticks) :
    divide span (.number (.int ticks)) = (do
      let extent ← Ruler.usableSpan span
      let ruler ← AxisError.ofNumber (Ruler.forSpan span ticks.toNat)
      ofRuler extent ruler) := by
  rw [divide, Ruler.wantedTicks_ok h]
  rfl

theorem divide_notUsable {span : Number} {ticks : Int} (h : 1 ≤ ticks) (hc : span.Converts)
    (hspan : ¬ span.Usable) :
    ∃ e, divide span (.number (.int ticks)) = .error e ∧ e.isRefusal = true := by
  obtain ⟨given, hgiven⟩ := Ruler.usableSpan_refused hc hspan
  refine ⟨.spanNotUsable given, ?_, rfl⟩
  rw [divide_of_one_le span h, hgiven]
  rfl

theorem divide_tooLarge {span : Number} {request : TickRequest} (h : TooLarge span request) :
    divide span request = .error (.number .wholeTooLarge) := by
  obtain ⟨ticks, rfl, hticks, hlarge⟩ := h
  rw [divide_of_one_le span hticks]
  by_cases hc : span.Converts
  · obtain ⟨husable, hdiv⟩ := hlarge.resolve_left (not_not_intro hc)
    obtain ⟨u, hu⟩ := Number.usable_iff.1 husable
    obtain ⟨extent, hextent⟩ := Ruler.exists_usableSpan hu hc
    rw [hextent, Ruler.forSpan_tooLarge hdiv]
    rfl
  · rw [Ruler.usableSpan_tooLarge hc]
    rfl

/-! ## All arguments -/

/-- At least one interval is wanted. -/
theorem divide_cases_of_one_le {ticks : Int} (span : Number) (h : 1 ≤ ticks) :
    TooLarge span (.number (.int ticks)) ∨
    (¬ Admits span (.number (.int ticks)) ∧
      ∃ e, divide span (.number (.int ticks)) = .error e ∧ e.isRefusal = true) ∨
    (Admits span (.number (.int ticks)) ∧ ∃ axis, divide span (.number (.int ticks)) = .ok axis) := by
  by_cases hc : span.Converts
  · by_cases husable : span.Usable
    · by_cases hdiv : span.DividesBy ticks.toNat
      · obtain ⟨u, hu⟩ := Number.usable_iff.1 husable
        exact .inr (.inr ⟨⟨ticks, rfl, h, husable⟩, exists_divide hu hc h hdiv⟩)
      · exact .inl ⟨ticks, rfl, h, .inr ⟨husable, hdiv⟩⟩
    · refine .inr (.inl ⟨?_, divide_notUsable h hc husable⟩)
      rintro ⟨n, -, -, hspan⟩
      exact husable hspan
  · exact .inl ⟨ticks, rfl, h, .inl hc⟩

/-- Fewer intervals than one, or no whole number of them, are wanted. -/
theorem divide_cases_of_not_one_le (span : Number) {request : TickRequest}
    (h : ∀ ticks : Int, request = .number (.int ticks) → ticks < 1) :
    (Unwritable request ∧ divide span request = .error (.number .tooManyDigits)) ∨
    (¬ Unwritable request ∧ ∃ e, divide span request = .error e ∧ e.isRefusal = true) := by
  by_cases hwhole : ∃ ticks : Int, request = .number (.int ticks)
  · obtain ⟨ticks, rfl⟩ := hwhole
    have hbelow := h ticks rfl
    have hdivide := divide_belowOne span hbelow
    by_cases hdigits : decimalLength ticks.natAbs ≤ maxIntDigits
    · rw [if_pos hdigits] at hdivide
      refine .inr ⟨?_, _, hdivide, rfl⟩
      rintro ⟨n, hn, -, hlong⟩
      cases hn
      omega
    · rw [if_neg hdigits] at hdivide
      exact .inl ⟨⟨ticks, rfl, hbelow, Nat.not_le.1 hdigits⟩, hdivide⟩
  · refine .inr ⟨?_, divide_notWhole span fun ticks hticks => hwhole ⟨ticks, hticks⟩⟩
    rintro ⟨n, hn, -⟩
    exact hwhole ⟨n, hn⟩

/-- **The exact outcome of any span and any request.** There is an axis, or the arguments are
refused, exactly as they should be, unless a whole number is too large to be converted or has too
many digits to be written; and these two are the only other outcomes. -/
theorem divide_outcome (span : Number) (request : TickRequest) :
    ((∃ axis, divide span request = .ok axis) ↔
      Admits span request ∧ ¬ TooLarge span request) ∧
    ((∃ e, divide span request = .error e ∧ e.isRefusal = true) ↔
      ¬ Admits span request ∧ ¬ TooLarge span request ∧ ¬ Unwritable request) ∧
    (divide span request = .error (.number .wholeTooLarge) ↔ TooLarge span request) ∧
    (divide span request = .error (.number .tooManyDigits) ↔ Unwritable request) := by
  by_cases hlarge : TooLarge span request
  · have hwritable : ¬ Unwritable request := fun h => h.not_tooLarge hlarge
    simp [divide_tooLarge hlarge, hlarge, hwritable, AxisError.isRefusal]
  by_cases hone : ∃ ticks : Int, request = .number (.int ticks) ∧ 1 ≤ ticks
  · obtain ⟨ticks, rfl, hticks⟩ := hone
    have hwritable : ¬ Unwritable (.number (.int ticks)) := by
      rintro ⟨n, hn, hbelow, -⟩
      cases hn
      omega
    rcases divide_cases_of_one_le span hticks with
      hlarge' | ⟨hnot, e, herror, hrefusal⟩ | ⟨hadmits, axis, haxis⟩
    · exact absurd hlarge' hlarge
    · simp [herror, hlarge, hwritable, hnot, hrefusal, AxisError.ne_number hrefusal]
    · simp [haxis, hlarge, hwritable, hadmits]
  · have hbelow (ticks : Int) (h : request = .number (.int ticks)) : ticks < 1 :=
      Int.not_le.1 fun hle => hone ⟨ticks, h, hle⟩
    have hnot : ¬ Admits span request := by
      rintro ⟨ticks, h, hle, -⟩
      exact hone ⟨ticks, h, hle⟩
    rcases divide_cases_of_not_one_le span hbelow with
      ⟨hunwritable, herror⟩ | ⟨hwritable, e, herror, hrefusal⟩
    · simp [herror, hlarge, hunwritable, hnot, AxisError.isRefusal]
    · simp [herror, hlarge, hwritable, hnot, hrefusal, AxisError.ne_number hrefusal]

/-- One millisecond in `10 ^ 400` intervals: nothing is wrong with the arguments, but the number of
intervals cannot be converted, and there is no axis. -/
theorem divide_outcome_manyIntervals :
    Admits (.float (.ofInt 1)) (.number (.int (10 ^ 400))) ∧
      divide (.float (.ofInt 1)) (.number (.int (10 ^ 400))) = .error (.number .wholeTooLarge) := by
  have hplace : (Number.float (.ofInt 1)).place? = some (.units unitsPerOne) := by decide +kernel
  have husable : (Number.float (.ofInt 1)).Usable := Number.usable_iff.2 ⟨unitsPerOne, hplace⟩
  have hlarge : ¬ (Number.float (.ofInt 1)).DividesBy (10 ^ 400 : Int).toNat := by
    show ¬ (10 ^ 400 : Int).toNat < wholeBound
    decide +kernel
  refine ⟨⟨_, rfl, by decide +kernel, husable⟩, ?_⟩
  exact (divide_outcome _ _).2.2.1.2 ⟨_, rfl, by decide +kernel, .inr ⟨husable, hlarge⟩⟩

end Axis

end NetTimeline
