import NetTimeline.Log.Record
import NetTimeline.Proofs.Result

/-!
# Outcomes that are the same

`SameOutcome R` compares two computations as one who looks at their values does: both fail, for
whatever reasons, or neither, and then the values are related by `R`. Two computations in several
steps have the same outcome if they have it step by step (`SameOutcome.bind`), also if two of the
steps change places (`SameOutcome.bind_comm`).

What a computation logs on the side has no part in its result: `Logged.result_bind`,
`Logged.result_mapM_eq`, `Logged.mapM_eq_of_results`.
-/

set_option autoImplicit false

namespace NetTimeline

variable {α α' β β' ε ε' : Type}

/-- Both computations have a value or neither, and their values are related. -/
structure SameOutcome (R : α → β → Prop) (first : Except ε α) (second : Except ε' β) : Prop where
  isOk : first.isOk = second.isOk
  related : ∀ a b, first = .ok a → second = .ok b → R a b

namespace SameOutcome

variable {R : α → β → Prop} {S : α' → β' → Prop} {first : Except ε α} {second : Except ε' β}

theorem ok {a : α} {b : β} (h : R a b) :
    SameOutcome R (.ok a : Except ε α) (.ok b : Except ε' β) := by
  refine ⟨rfl, ?_⟩
  rintro _ _ ⟨⟩ ⟨⟩
  exact h

theorem error (e : ε) (e' : ε') : SameOutcome R (.error e) (.error e') :=
  ⟨rfl, fun _ _ he => nomatch he⟩

theorem refl {T : α → α → Prop} (h : ∀ a, T a a) (result : Except ε α) :
    SameOutcome T result result := by
  cases result with
  | ok a => exact ok (h a)
  | error e => exact error e e

theorem trans {γ ε'' : Type} {T : β → γ → Prop} {U : α → γ → Prop} {third : Except ε'' γ}
    (h : SameOutcome R first second) (h' : SameOutcome T second third)
    (hU : ∀ a b c, R a b → T b c → U a c) : SameOutcome U first third := by
  refine ⟨h.isOk.trans h'.isOk, ?_⟩
  intro a c ha hc
  obtain ⟨b, hb⟩ : ∃ b, second = .ok b := Except.exists_of_isOk (by rw [h'.isOk, hc]; rfl)
  exact hU a b c (h.related a b ha hb) (h'.related b c hb hc)

theorem cases (h : SameOutcome R first second) :
    (∃ a b, R a b ∧ first = .ok a ∧ second = .ok b) ∨
      ∃ e e', first = .error e ∧ second = .error e' := by
  cases first with
  | ok a =>
    obtain ⟨b, rfl⟩ := Except.exists_of_isOk h.isOk.symm
    exact .inl ⟨a, b, h.related a b rfl rfl, rfl, rfl⟩
  | error e =>
    cases second with
    | ok b => exact absurd h.isOk Bool.false_ne_true
    | error e' => exact .inr ⟨e, e', rfl, rfl⟩

theorem bind {next : α → Except ε α'} {next' : β → Except ε' β'} (h : SameOutcome R first second)
    (hnext : ∀ a b, R a b → SameOutcome S (next a) (next' b)) :
    SameOutcome S (first >>= next) (second >>= next') := by
  obtain ⟨a, b, hab, rfl, rfl⟩ | ⟨e, e', rfl, rfl⟩ := h.cases
  · exact hnext a b hab
  · exact error e e'

/-- Two computations that do not depend on each other can be done in either order; which of their
errors comes out may change. -/
theorem bind_comm {γ γ' : Type} {T : γ → γ' → Prop} {first : Except ε α} {second : Except ε β}
    {next : α → β → Except ε γ} {next' : β → α → Except ε γ'}
    (h : ∀ a b, SameOutcome T (next a b) (next' b a)) :
    SameOutcome T (do let a ← first; let b ← second; next a b)
      (do let b ← second; let a ← first; next' b a) := by
  cases first with
  | ok a =>
    cases second with
    | ok b => exact h a b
    | error e => exact error e e
  | error e =>
    cases second with
    | ok b => exact error e e
    | error e' => exact error e e'

theorem mapError {δ δ' : Type} (f : ε → δ) (g : ε' → δ') (h : SameOutcome R first second) :
    SameOutcome R (first.mapError f) (second.mapError g) := by
  obtain ⟨a, b, hab, rfl, rfl⟩ | ⟨e, e', rfl, rfl⟩ := h.cases
  · exact ok hab
  · exact error (f e) (g e')

end SameOutcome

/-! ## Results apart from the log -/

/-- Computations that are the same for each member of a list are so for the list. -/
theorem List.mapM_congr_of_mem {m : Type → Type} [Monad m] [LawfulMonad m] {f g : α → m β}
    {as : List α} (h : ∀ a ∈ as, f a = g a) : as.mapM f = as.mapM g := by
  induction as with
  | nil => rw [List.mapM_nil, List.mapM_nil]
  | cons a as ih =>
    rw [List.mapM_cons, List.mapM_cons, h a List.mem_cons_self,
      ih fun x hx => h x (List.mem_cons_of_mem _ hx)]

namespace Logged

theorem result_bind (first : Logged ε α) (next : α → Logged ε β) :
    (first >>= next).result = first.result >>= fun a => (next a).result := by
  obtain ⟨records, result⟩ := first
  cases result <;> rfl

theorem result_mapM_eq (f : α → Logged ε β) (as : List α) :
    (as.mapM f).result = as.mapM fun a => (f a).result := by
  induction as with
  | nil => rfl
  | cons a as ih =>
    rw [List.mapM_cons, List.mapM_cons, result_bind]
    refine bind_congr fun b => ?_
    show ((as.mapM f) >>= fun bs => pure (b :: bs)).result = _
    rw [result_bind, ih]
    rfl

/-- Computations in a row that all have a value log one behind the other. -/
theorem mapM_eq_of_results {f : α → Logged ε β} {g : α → β} {as : List α}
    (h : ∀ a ∈ as, (f a).result = .ok (g a)) :
    as.mapM f = ⟨as.flatMap fun a => (f a).records, .ok (as.map g)⟩ := by
  induction as with
  | nil => rfl
  | cons a as ih =>
    have hfirst : f a = ⟨(f a).records, .ok (g a)⟩ := by rw [← h a List.mem_cons_self]
    rw [List.mapM_cons, ih fun x hx => h x (List.mem_cons_of_mem _ hx), hfirst]
    simp [bind, Logged.bind, pure]

end Logged

end NetTimeline
