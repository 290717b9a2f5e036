import Mathlib.Data.List.Forall2

/-!
# Successful computations, taken apart

A computation in `Except` that succeeds did so in each of its steps: `Except.bind_eq_ok` for two
steps, `Option.elim_eq_ok` for a value that may be missing, `List.mapM_eq_ok` for a list. In turn
`List.exists_mapM_eq_ok` puts the computation of a list together. One that fails did so in one of
its steps, behind others that succeeded: `Except.bind_eq_error` and, for a list, `FailsFirst` with
`List.mapM_eq_error`.
-/

set_option autoImplicit false

namespace NetTimeline

variable {α β ε : Type}

theorem Except.bind_eq_ok {first : Except ε α} {next : α → Except ε β} {b : β} :
    first >>= next = .ok b ↔ ∃ a, first = .ok a ∧ next a = .ok b := by
  constructor
  · intro h
    cases first with
    | ok a => exact ⟨a, rfl, h⟩
    | error e => cases h
  · rintro ⟨a, rfl, h⟩
    exact h

theorem Except.exists_of_isOk {result : Except ε α} (h : result.isOk = true) :
    ∃ a, result = .ok a := by
  cases result with
  | ok a => exact ⟨a, rfl⟩
  | error e => cases h

theorem Option.elim_eq_ok {o : Option α} {e : ε} {f : α → Except ε β} {b : β} :
    o.elim (.error e) f = .ok b ↔ ∃ a, o = some a ∧ f a = .ok b := by
  cases o <;> simp

/-- A list is mapped member by member. -/
theorem List.mapM_eq_ok {f : α → Except ε β} {as : List α} {bs : List β} :
    as.mapM f = .ok bs ↔ List.Forall₂ (fun a b => f a = .ok b) as bs := by
  induction as generalizing bs with
  | nil =>
    rw [List.mapM_nil, List.forall₂_nil_left_iff]
    exact ⟨fun h => (Except.ok.inj h).symm, fun h => by rw [h]; rfl⟩
  | cons a as ih =>
    rw [List.mapM_cons, List.forall₂_cons_left_iff, Except.bind_eq_ok]
    constructor
    · rintro ⟨b, hb, hrest⟩
      obtain ⟨rest, hmap, hbs⟩ := Except.bind_eq_ok.1 hrest
      exact ⟨b, rest, hb, ih.1 hmap, (Except.ok.inj hbs).symm⟩
    · rintro ⟨b, rest, hb, hmap, rfl⟩
      exact ⟨b, hb, Except.bind_eq_ok.2 ⟨rest, ih.2 hmap, rfl⟩⟩

/-- A list is related to some list if each of its members is related to something. -/
theorem List.exists_forall₂ {R : α → β → Prop} {as : List α} (h : ∀ a ∈ as, ∃ b, R a b) :
    ∃ bs, List.Forall₂ R as bs := by
  induction as with
  | nil => exact ⟨[], .nil⟩
  | cons a as ih =>
    obtain ⟨hfirst, hrest⟩ := List.forall_mem_cons.1 h
    obtain ⟨b, hb⟩ := hfirst
    obtain ⟨bs, hbs⟩ := ih hrest
    exact ⟨b :: bs, .cons hb hbs⟩

/-- A list is mapped if each of its members is. -/
theorem List.exists_mapM_eq_ok {f : α → Except ε β} {as : List α}
    (h : ∀ a ∈ as, ∃ b, f a = .ok b) : ∃ bs, as.mapM f = .ok bs := by
  obtain ⟨bs, hbs⟩ := List.exists_forall₂ h
  exact ⟨bs, List.mapM_eq_ok.2 hbs⟩

/-- Each member of a list that is mapped has an image. -/
theorem List.exists_of_mapM_eq_ok {f : α → Except ε β} {as : List α} {bs : List β}
    (h : as.mapM f = .ok bs) {a : α} (ha : a ∈ as) : ∃ b, f a = .ok b := by
  have hall := List.mapM_eq_ok.1 h
  clear h
  induction hall with
  | nil => cases ha
  | cons hfirst _ ih =>
    rcases List.mem_cons.1 ha with rfl | hrest
    · exact ⟨_, hfirst⟩
    · exact ih hrest

/-- Each member of a list is related to one of the list that it is related to. -/
theorem List.exists_of_forall₂ {R : α → β → Prop} {as : List α} {bs : List β}
    (h : List.Forall₂ R as bs) {b : β} (hb : b ∈ bs) : ∃ a ∈ as, R a b := by
  induction h with
  | nil => cases hb
  | cons hfirst _ ih =>
    rcases List.mem_cons.1 hb with rfl | hrest
    · exact ⟨_, List.mem_cons_self, hfirst⟩
    · obtain ⟨a, ha, hab⟩ := ih hrest
      exact ⟨a, List.mem_cons_of_mem _ ha, hab⟩

/-- Related lists have equal images if related members have. -/
theorem List.map_eq_of_forall₂ {γ : Type} {R : α → β → Prop} {f : β → γ} {g : α → γ}
    {as : List α} {bs : List β} (h : List.Forall₂ R as bs)
    (hfg : ∀ a ∈ as, ∀ b, R a b → f b = g a) : bs.map f = as.map g := by
  induction h with
  | nil => rfl
  | cons hab _ ih =>
    rw [List.map_cons, List.map_cons, hfg _ List.mem_cons_self _ hab,
      ih fun a hmem => hfg a (List.mem_cons_of_mem _ hmem)]

/-- What holds between the members of a list in its order, holds so of a list that is related. -/
theorem List.pairwise_of_forall₂ {R : α → β → Prop} {S : β → β → Prop} {T : α → α → Prop}
    {as : List α} {bs : List β} (h : List.Forall₂ R as bs) (hbs : bs.Pairwise S)
    (hST : ∀ {a a' b b'}, R a b → R a' b' → S b b' → T a a') : as.Pairwise T := by
  induction h with
  | nil => exact .nil
  | cons hab hrest ih =>
    obtain ⟨hb, hbs⟩ := List.pairwise_cons.1 hbs
    refine List.pairwise_cons.2 ⟨fun a' ha' => ?_, ih hbs⟩
    obtain ⟨b', hb', hab'⟩ := List.exists_of_forall₂ hrest.flip ha'
    exact hST hab hab' (hb b' hb')

/-- The members that a test keeps are related to their images, if only they have one. -/
theorem List.forall₂_filter_filterMap {R : α → β → Prop} {p : α → Bool} {f : α → Option β}
    (hsome : ∀ a, p a = true → ∃ b, f a = some b ∧ R a b) (hnone : ∀ a, p a = false → f a = none)
    (as : List α) : List.Forall₂ R (as.filter p) (as.filterMap f) := by
  induction as with
  | nil => exact .nil
  | cons a as ih =>
    cases hp : p a with
    | true =>
      obtain ⟨b, hb, hab⟩ := hsome a hp
      rw [List.filter_cons_of_pos hp, List.filterMap_cons_some hb]
      exact .cons hab ih
    | false =>
      rw [List.filter_cons_of_neg (by simp [hp]), List.filterMap_cons_none (hnone a hp)]
      exact ih

/-! ## Failures -/

theorem Except.bind_eq_error {first : Except ε α} {next : α → Except ε β} {e : ε} :
    first >>= next = .error e ↔
      first = .error e ∨ ∃ a, first = .ok a ∧ next a = .error e := by
  constructor
  · intro h
    cases first with
    | ok a => exact .inr ⟨a, rfl, h⟩
    | error e' => exact .inl (congrArg Except.error (Except.error.inj h))
  · rintro (rfl | ⟨a, rfl, h⟩)
    · rfl
    · exact h

/-- Two computations that go on from one are the same exactly if they are where it succeeds. -/
theorem Except.bind_eq_bind_iff {first : Except ε α} {f g : α → Except ε β} :
    first >>= f = first >>= g ↔ ∀ a, first = .ok a → f a = g a := by
  cases first with
  | error e => exact iff_of_true rfl fun a h => by cases h
  | ok a => simp [bind, Except.bind]

theorem Except.mapError_inj {ε' : Type} {f : ε → ε'} (hf : Function.Injective f)
    {a b : Except ε α} : a.mapError f = b.mapError f ↔ a = b := by
  cases a <;> cases b <;> simp [Except.mapError, hf.eq_iff]

theorem Except.mapError_eq_error {ε' : Type} {result : Except ε α} {f : ε → ε'} {e' : ε'} :
    result.mapError f = .error e' ↔ ∃ e, result = .error e ∧ f e = e' := by
  constructor
  · intro h
    cases result with
    | ok a => cases h
    | error e => exact ⟨e, rfl, Except.error.inj h⟩
  · rintro ⟨e, rfl, rfl⟩
    rfl

theorem Except.mapError_eq_ok {ε' : Type} {result : Except ε α} {f : ε → ε'} {a : α} :
    result.mapError f = .ok a ↔ result = .ok a := by
  constructor
  · intro h
    cases result with
    | ok b => exact congrArg Except.ok (Except.ok.inj h)
    | error e => cases h
  · rintro rfl
    rfl

/-- Of the members of a list, the first one that fails does so with this error. -/
inductive FailsFirst (f : α → Except ε β) (e : ε) : List α → Prop
  | here {a : α} {as : List α} (h : f a = .error e) : FailsFirst f e (a :: as)
  | later {a : α} {b : β} {as : List α} (ha : f a = .ok b) (h : FailsFirst f e as) :
    FailsFirst f e (a :: as)

theorem failsFirst_cons_iff {f : α → Except ε β} {e : ε} {a : α} {as : List α} :
    FailsFirst f e (a :: as) ↔ f a = .error e ∨ (∃ b, f a = .ok b) ∧ FailsFirst f e as := by
  constructor
  · rintro (h | ⟨ha, h⟩)
    · exact .inl h
    · exact .inr ⟨⟨_, ha⟩, h⟩
  · rintro (h | ⟨⟨b, ha⟩, h⟩)
    · exact .here h
    · exact .later ha h

/-- If a single member fails, it is the first one to do so. -/
theorem FailsFirst.of_single {f : α → Except ε β} {e : ε} {a : α} {as : List α} (hmem : a ∈ as)
    (hfails : f a = .error e) (hothers : ∀ b ∈ as, b ≠ a → ∃ c, f b = .ok c) :
    FailsFirst f e as := by
  induction as with
  | nil => cases hmem
  | cons b bs ih =>
    by_cases hb : b = a
    · subst hb
      exact .here hfails
    · have hrest : a ∈ bs := (List.mem_cons.1 hmem).resolve_left (Ne.symm hb)
      obtain ⟨c, hc⟩ := hothers b List.mem_cons_self hb
      exact .later hc (ih hrest fun x hx => hothers x (List.mem_cons_of_mem _ hx))

theorem List.mapM_eq_error {f : α → Except ε β} {e : ε} {as : List α} :
    as.mapM f = .error e ↔ FailsFirst f e as := by
  induction as with
  | nil => exact ⟨fun h => (by cases h), fun h => by cases h⟩
  | cons a as ih =>
    rw [List.mapM_cons, Except.bind_eq_error, failsFirst_cons_iff, ← ih]
    refine or_congr Iff.rfl ⟨?_, ?_⟩
    · rintro ⟨b, hb, h⟩
      rcases Except.bind_eq_error.1 h with hrest | ⟨bs, -, hpure⟩
      · exact ⟨⟨b, hb⟩, hrest⟩
      · cases hpure
    · rintro ⟨⟨b, hb⟩, hrest⟩
      exact ⟨b, hb, Except.bind_eq_error.2 (.inl hrest)⟩

end NetTimeline
