import Mathlib.Data.List.Basic
import NetTimeline.Axis.Step
import NetTimeline.Proofs.Number.Units

/-!
# The least and the greatest nice step

Nice steps lie close together: each but the first has another one at two fifths of it or more
(`Nice.exists_below`), and each has another one at five halves of it or less
(`Nice.exists_above`).

The two searches for a step are taken apart once, by `atLeast_cases` and `within_cases`. Below
`2 ^ 53` the rounded quotients in them do no harm.

Principal results:

* `atLeast_nice`, `within_nice` — both searches find a nice step, at any size;
* `atLeast_least` — below `2 ^ 53` the search from above finds the least nice step;
* `within_greatest` — below `2 ^ 53` the search from below finds the greatest one.
-/

set_option autoImplicit false

namespace NetTimeline.Step

/-! ## Nice steps -/

theorem halfHour_pos : 0 < halfHour := by decide

theorem halfHour_le_pow : halfHour ≤ 2 ^ 53 := by decide

theorem table_increasing : table.Pairwise (· < ·) := by decide

theorem halfHour_units_lt : halfHour * unitsPerOne < 2 ^ 53 * unitsPerOne :=
  Nat.mul_lt_mul_of_pos_right (by decide) unitsPerOne_pos

theorem halfHour_mem_table : halfHour ∈ table := by decide

theorem le_halfHour_of_mem {step : Nat} (h : step ∈ table) : step ≤ halfHour := by
  have : ∀ s ∈ table, s ≤ halfHour := by decide
  exact this step h

theorem nice_of_mem {step : Nat} (h : step ∈ table) : Nice step := Or.inl h

theorem nice_mul {count : Nat} (h : 0 < count) : Nice (halfHour * count) :=
  Or.inr ⟨Nat.mul_pos halfHour_pos h, Nat.dvd_mul_right _ _⟩

theorem nice_one : Nice 1 := nice_of_mem (by decide)

/-- A nice step is in the table, or it is at least twice half an hour. -/
theorem Nice.mem_or_mul {step : Nat} (h : Nice step) :
    step ∈ table ∨ ∃ count, 2 ≤ count ∧ step = halfHour * count := by
  rcases h with hmem | ⟨hpos, count, rfl⟩
  · exact Or.inl hmem
  · have hcount : count ≠ 0 := by rintro rfl; simp at hpos
    rcases Nat.eq_or_lt_of_le (Nat.pos_of_ne_zero hcount) with hone | hmore
    · left
      rw [← hone]
      exact halfHour_mem_table
    · exact Or.inr ⟨count, hmore, rfl⟩

theorem Nice.mem_of_le {step : Nat} (h : Nice step) (hle : step ≤ halfHour) : step ∈ table := by
  rcases h.mem_or_mul with hmem | ⟨count, hcount, rfl⟩
  · exact hmem
  · have := Nat.mul_le_mul_left halfHour hcount
    have := halfHour_pos
    omega

theorem Nice.eq_mul_of_le {step : Nat} (h : Nice step) (hle : halfHour ≤ step) :
    ∃ count, 0 < count ∧ step = halfHour * count := by
  rcases h.mem_or_mul with hmem | ⟨count, hcount, rfl⟩
  · exact ⟨1, by decide, by have := le_halfHour_of_mem hmem; omega⟩
  · exact ⟨count, by omega, rfl⟩

theorem Nice.exists_below {step : Nat} (h : Nice step) (hstep : 1 < step) :
    ∃ lower, Nice lower ∧ lower < step ∧ 2 * step ≤ 5 * lower := by
  rcases h.mem_or_mul with hmem | ⟨count, hcount, rfl⟩
  · have : ∀ s ∈ table, 1 < s → ∃ t ∈ table, t < s ∧ 2 * s ≤ 5 * t := by decide
    obtain ⟨lower, hlower, hlt, hratio⟩ := this step hmem hstep
    exact ⟨lower, nice_of_mem hlower, hlt, hratio⟩
  · obtain ⟨c, rfl⟩ := Nat.exists_eq_add_of_le hcount
    refine ⟨halfHour * (1 + c), nice_mul (by omega), ?_, ?_⟩
    · exact Nat.mul_lt_mul_of_pos_left (by omega) halfHour_pos
    · unfold halfHour; omega

theorem Nice.exists_above {step : Nat} (h : Nice step) :
    ∃ upper, Nice upper ∧ step < upper ∧ 2 * upper ≤ 5 * step := by
  rcases Nat.lt_or_ge step halfHour with hlt | hge
  · have : ∀ s ∈ table, s < halfHour → ∃ t ∈ table, s < t ∧ 2 * t ≤ 5 * s := by decide
    obtain ⟨upper, hupper, hstep, hratio⟩ := this step (h.mem_of_le (Nat.le_of_lt hlt)) hlt
    exact ⟨upper, nice_of_mem hupper, hstep, hratio⟩
  · obtain ⟨count, hcount, rfl⟩ := h.eq_mul_of_le hge
    refine ⟨halfHour * (count + 1), nice_mul (by omega), ?_, ?_⟩
    · exact Nat.mul_lt_mul_of_pos_left (by omega) halfHour_pos
    · unfold halfHour; omega

/-- A nice step below a second divides a second, one below a minute divides a minute. -/
theorem Nice.dvd_of_lt {step : Nat} (h : Nice step) :
    (step < 1000 → step ∣ 1000) ∧ (step < 60000 → step ∣ 60000) := by
  have hdvd : ∀ s ∈ table, (s < 1000 → s ∣ 1000) ∧ (s < 60000 → s ∣ 60000) := by decide
  rcases h.mem_or_mul with hmem | ⟨count, hcount, rfl⟩
  · exact hdvd step hmem
  · have := Nat.mul_le_mul_left halfHour hcount
    unfold halfHour at *
    constructor <;> intro hlt <;> omega

/-! ## Searching an increasing list -/

section Search

variable {l : List Nat} {p : Nat → Bool} {n : Nat}

theorem find?_least (hl : l.Pairwise (· < ·)) (h : l.find? p = some n) :
    n ∈ l ∧ p n = true ∧ ∀ m ∈ l, p m = true → n ≤ m := by
  obtain ⟨hp, before, after, rfl, hbefore⟩ := List.find?_eq_some_iff_append.1 h
  refine ⟨by simp, hp, ?_⟩
  intro m hm hpm
  rcases List.mem_append.1 hm with hmem | hmem
  · have := hbefore m hmem
    simp [hpm] at this
  · obtain ⟨-, hafter, -⟩ := List.pairwise_append.1 hl
    rcases List.mem_cons.1 hmem with rfl | hmem
    · exact Nat.le_refl _
    · exact Nat.le_of_lt ((List.pairwise_cons.1 hafter).1 m hmem)

theorem getLast?_filter_greatest (hl : l.Pairwise (· < ·)) (h : (l.filter p).getLast? = some n) :
    n ∈ l ∧ p n = true ∧ ∀ m ∈ l, p m = true → m ≤ n := by
  obtain ⟨before, hfilter⟩ := List.getLast?_eq_some_iff.1 h
  have hn : n ∈ l.filter p := by simp [hfilter]
  refine ⟨(List.mem_filter.1 hn).1, (List.mem_filter.1 hn).2, ?_⟩
  intro m hm hpm
  have hmem : m ∈ before ++ [n] := hfilter ▸ List.mem_filter.2 ⟨hm, hpm⟩
  have hpairwise : (before ++ [n]).Pairwise (· < ·) := hfilter ▸ hl.filter p
  rcases List.mem_append.1 hmem with hbefore | hlast
  · exact Nat.le_of_lt ((List.pairwise_append.1 hpairwise).2.2 m hbefore n (by simp))
  · simp at hlast; omega

end Search

/-! ## The two searches -/

section Searches

variable {time : Number} {u step : Nat}

/-- The quotient by half an hour is rounded once. -/
theorem quotient_liesAt {quotient : Binary64} (h : time.LiesAt u)
    (hquotient : time.div halfHour = .ok quotient) :
    (Number.float quotient).LiesAt (roundToGrid u halfHour) := by
  have hlies := h.div halfHour_pos hquotient
  rwa [Number.divisorUnits_eq _ halfHour_le_pow,
    roundToGrid_mul_right _ _ unitsPerOne_pos] at hlies

theorem quotient_ceil {quotient : Binary64} {count : Int} (h : time.LiesAt u)
    (hquotient : time.div halfHour = .ok quotient) (hcount : quotient.ceil = .ok count) (k : Nat) :
    count.toNat ≤ k ↔ roundToGrid u halfHour ≤ k * unitsPerOne := by
  obtain ⟨c, hc, hceil⟩ := (quotient_liesAt h hquotient).ceil
  obtain rfl : (c : Int) = count := Except.ok.inj (hc.symm.trans hcount)
  exact hceil k

theorem quotient_floor {quotient : Binary64} {count : Int} (h : time.LiesAt u)
    (hquotient : time.div halfHour = .ok quotient) (hcount : quotient.floor = .ok count) (k : Nat) :
    k ≤ count.toNat ↔ k * unitsPerOne ≤ roundToGrid u halfHour := by
  have hfloor : quotient.floor = .ok ((roundToGrid u halfHour / unitsPerOne : Nat) : Int) :=
    (quotient_liesAt h hquotient).floor
  obtain rfl := Except.ok.inj (hfloor.symm.trans hcount)
  exact Nat.le_div_iff_mul_le unitsPerOne_pos

/-- **What the search from above can find**: the least step of the table, or past the table half
an hour times the rounded quotient, rounded up. -/
theorem atLeast_cases (h : time.LiesAt u) (hs : atLeast time = .ok step) :
    (u ≤ halfHour * unitsPerOne ∧ step ∈ table ∧ u ≤ step * unitsPerOne ∧
      ∀ t ∈ table, u ≤ t * unitsPerOne → step ≤ t) ∨
    (halfHour * unitsPerOne < u ∧ ∃ quotient count, time.div halfHour = .ok quotient ∧
      quotient.ceil = .ok count ∧ step = halfHour * count.toNat) := by
  unfold atLeast at hs
  split at hs
  · rename_i found hfound
    obtain rfl : found = step := Except.ok.inj hs
    obtain ⟨hmem, hle, hleast⟩ := find?_least table_increasing hfound
    rw [h.le_int] at hle
    refine Or.inl ⟨?_, hmem, hle, fun t ht hut => hleast t ht ((h.le_int t).2 hut)⟩
    exact Nat.le_trans hle (Nat.mul_le_mul_right _ (le_halfHour_of_mem hmem))
  · rename_i hnone
    have hlast := List.find?_eq_none.1 hnone halfHour halfHour_mem_table
    rw [h.le_int] at hlast
    obtain ⟨quotient, hquotient, hrest⟩ := Except.bind_eq_ok.1 hs
    obtain ⟨count, hcount, hstep⟩ := Except.bind_eq_ok.1 hrest
    exact Or.inr ⟨by omega, quotient, count, hquotient, hcount, (Except.ok.inj hstep).symm⟩

/-- **What the search from below can find**: the greatest step of the table, or from half an hour
on half an hour times the rounded quotient, rounded down. -/
theorem within_cases (h : time.LiesAt u) (hs : within time = .ok step) :
    (u < unitsPerOne ∧ step = 1) ∨
    (unitsPerOne ≤ u ∧ u < halfHour * unitsPerOne ∧ step ∈ table ∧ step * unitsPerOne ≤ u ∧
      ∀ t ∈ table, t * unitsPerOne ≤ u → t ≤ step) ∨
    (halfHour * unitsPerOne ≤ u ∧ ∃ quotient count, time.div halfHour = .ok quotient ∧
      quotient.floor = .ok count ∧ step = halfHour * count.toNat) := by
  unfold within at hs
  split at hs
  · rename_i hle
    rw [h.int_le] at hle
    obtain ⟨quotient, hquotient, hrest⟩ := Except.bind_eq_ok.1 hs
    obtain ⟨count, hcount, hstep⟩ := Except.bind_eq_ok.1 hrest
    exact Or.inr (Or.inr ⟨hle, quotient, count, hquotient, hcount, (Except.ok.inj hstep).symm⟩)
  · rename_i hlt
    rw [h.int_le] at hlt
    have hstep := Except.ok.inj hs
    cases hlast : (table.filter fun step : Nat => Number.le (.int step) time).getLast? with
    | none =>
      rw [hlast] at hstep
      have hempty := List.getLast?_eq_none_iff.1 hlast
      have hone := List.filter_eq_nil_iff.1 hempty 1 (by decide)
      rw [h.int_le] at hone
      exact Or.inl ⟨by omega, hstep.symm⟩
    | some found =>
      rw [hlast] at hstep
      obtain rfl : found = step := hstep
      obtain ⟨hmem, hle, hgreatest⟩ := getLast?_filter_greatest table_increasing hlast
      rw [h.int_le] at hle
      have hfound := Nat.mul_le_mul_right unitsPerOne (table_pos hmem)
      exact Or.inr (Or.inl ⟨by omega, by omega, hmem, hle,
        fun t ht htu => hgreatest t ht ((h.int_le t).2 htu)⟩)

theorem within_eq_one (h : time.LiesAt u) (hlt : u < unitsPerOne) (hs : within time = .ok step) :
    step = 1 := by
  rcases within_cases h hs with ⟨-, hstep⟩ | ⟨hone, -⟩ | ⟨hpast, -⟩
  · exact hstep
  · omega
  · have := Nat.le_mul_of_pos_left unitsPerOne halfHour_pos
    omega

theorem atLeast_eq_one (h : time.LiesAt u) (hle : u ≤ unitsPerOne) (hs : atLeast time = .ok step) :
    step = 1 := by
  rcases atLeast_cases h hs with ⟨-, hmem, -, hleast⟩ | ⟨hpast, -⟩
  · have hstep : step ≤ 1 := hleast 1 (by decide) (by omega)
    have hpos := table_pos hmem
    omega
  · have := Nat.le_mul_of_pos_left unitsPerOne halfHour_pos
    omega

/-- From half an hour on the rounded quotient is one or more. -/
theorem unitsPerOne_le_quotient (h : halfHour * unitsPerOne ≤ u) :
    unitsPerOne ≤ roundToGrid u halfHour :=
  le_roundToGrid halfHour_pos onGrid_unitsPerOne (by rwa [Nat.mul_comm])

theorem atLeast_nice (h : time.LiesAt u) (hs : atLeast time = .ok step) : Nice step := by
  rcases atLeast_cases h hs with ⟨-, hmem, -⟩ | ⟨hpast, quotient, count, hquotient, hcount, rfl⟩
  · exact nice_of_mem hmem
  · apply nice_mul
    apply Nat.pos_of_ne_zero
    intro hzero
    have hnone := (quotient_ceil h hquotient hcount 0).1 (by omega)
    have := unitsPerOne_le_quotient (Nat.le_of_lt hpast)
    have := unitsPerOne_pos
    omega

theorem within_nice (h : time.LiesAt u) (hs : within time = .ok step) : Nice step := by
  rcases within_cases h hs with
    ⟨-, rfl⟩ | ⟨-, -, hmem, -⟩ | ⟨hpast, quotient, count, hquotient, hcount, rfl⟩
  · exact nice_one
  · exact nice_of_mem hmem
  · refine nice_mul ((quotient_floor h hquotient hcount 1).2 ?_)
    rw [Nat.one_mul]
    exact unitsPerOne_le_quotient hpast

/-- **The search from above finds the least nice step** that is not below a time. -/
theorem atLeast_least (h : time.LiesAt u) (h53 : u < 2 ^ 53 * unitsPerOne)
    (hs : atLeast time = .ok step) :
    u ≤ step * unitsPerOne ∧ ∀ t, Nice t → u ≤ t * unitsPerOne → step ≤ t := by
  rcases atLeast_cases h hs with
    ⟨-, hmem, hle, hleast⟩ | ⟨hpast, quotient, count, hquotient, hcount, rfl⟩
  · refine ⟨hle, ?_⟩
    intro t ht hut
    rcases Nat.le_total t halfHour with hsmall | hlarge
    · exact hleast t (ht.mem_of_le hsmall) hut
    · exact Nat.le_trans (le_halfHour_of_mem hmem) hlarge
  · have hone : unitsPerOne ≤ u := by
      have := Nat.le_mul_of_pos_left unitsPerOne halfHour_pos
      omega
    have hexact (k : Nat) : count.toNat ≤ k ↔ u ≤ halfHour * k * unitsPerOne := by
      rw [quotient_ceil h hquotient hcount,
        roundToGrid_le_mul_iff halfHour_pos halfHour_le_pow (h.onGrid h53) hone h53,
        show k * unitsPerOne * halfHour = halfHour * k * unitsPerOne by ring]
    refine ⟨(hexact _).1 (Nat.le_refl _), ?_⟩
    intro t ht hut
    have hlarge : halfHour ≤ t := by
      have := Nat.lt_of_lt_of_le hpast hut
      exact Nat.le_of_lt (Nat.lt_of_mul_lt_mul_right this)
    obtain ⟨k, -, rfl⟩ := ht.eq_mul_of_le hlarge
    exact Nat.mul_le_mul_left _ ((hexact k).2 hut)

/-- **The search from below finds the greatest nice step** that is not above a time of one or
more. -/
theorem within_greatest (h : time.LiesAt u) (hone : unitsPerOne ≤ u)
    (h53 : u < 2 ^ 53 * unitsPerOne) (hs : within time = .ok step) :
    step * unitsPerOne ≤ u ∧ ∀ t, Nice t → t * unitsPerOne ≤ u → t ≤ step := by
  rcases within_cases h hs with
    ⟨hlt, -⟩ | ⟨-, hlt, hmem, hle, hgreatest⟩ | ⟨hpast, quotient, count, hquotient, hcount, rfl⟩
  · omega
  · refine ⟨hle, fun t ht htu => hgreatest t (ht.mem_of_le ?_) htu⟩
    have := Nat.lt_of_le_of_lt htu hlt
    exact Nat.le_of_lt (Nat.lt_of_mul_lt_mul_right this)
  · have hexact (k : Nat) : k ≤ count.toNat ↔ halfHour * k * unitsPerOne ≤ u := by
      rw [quotient_floor h hquotient hcount,
        mul_le_roundToGrid_iff halfHour_pos halfHour_le_pow (h.onGrid h53) hone h53,
        show k * unitsPerOne * halfHour = halfHour * k * unitsPerOne by ring]
    have hcountpos : 1 ≤ count.toNat := (hexact 1).2 (by rwa [Nat.mul_one])
    refine ⟨(hexact _).1 (Nat.le_refl _), ?_⟩
    intro t ht htu
    rcases Nat.le_total t halfHour with hsmall | hlarge
    · exact Nat.le_trans hsmall (Nat.le_mul_of_pos_right _ hcountpos)
    · obtain ⟨k, -, rfl⟩ := ht.eq_mul_of_le hlarge
      exact Nat.mul_le_mul_left _ ((hexact k).2 htu)

end Searches

end NetTimeline.Step
