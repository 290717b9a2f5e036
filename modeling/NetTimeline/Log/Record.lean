/-!
# Log records

Reference model of what the program hands to `logging`: what a computation says about its work on
the side. `Logged` is a result together with the records written on the way to it; they are kept
when the result is an error.

Main statements: `Logged.bind_assoc`, `Logged.bind_pure` — computations in a row form a lawful
monad.
-/

set_option autoImplicit false

namespace NetTimeline

/-- How much a record matters. -/
inductive LogLevel where
  | debug
  | warning
  deriving DecidableEq, Repr

def LogLevel.name : LogLevel → String
  | .debug => "DEBUG"
  | .warning => "WARNING"

/-- A record of the log. -/
structure LogRecord where
  level : LogLevel
  text : String
  deriving DecidableEq, Repr

/-- A record as a line. -/
def LogRecord.line (record : LogRecord) : String := record.level.name ++ ": " ++ record.text

theorem mapError_ok {ε ε' α : Type} (f : ε → ε') (a : α) :
    (Except.ok a : Except ε α).mapError f = .ok a := rfl

theorem mapError_error {ε ε' α : Type} (f : ε → ε') (e : ε) :
    (Except.error e : Except ε α).mapError f = .error (f e) := rfl

/-- A value or an error, and what was logged on the way to it. -/
structure Logged (ε α : Type) where
  records : List LogRecord
  result : Except ε α

namespace Logged

variable {ε α β : Type}

/-- A result with nothing logged. -/
def ofExcept (result : Except ε α) : Logged ε α := ⟨[], result⟩

/-- The next computation, run if this one has a value. -/
protected def bind (first : Logged ε α) (next : α → Logged ε β) : Logged ε β :=
  match first.result with
  | .ok a => ⟨first.records ++ (next a).records, (next a).result⟩
  | .error e => ⟨first.records, .error e⟩

instance : Monad (Logged ε) where
  pure a := ⟨[], .ok a⟩
  bind := Logged.bind

instance : MonadExceptOf ε (Logged ε) where
  throw e := ⟨[], .error e⟩
  tryCatch first handler :=
    match first.result with
    | .ok _ => first
    | .error e => ⟨first.records ++ (handler e).records, (handler e).result⟩

protected theorem bind_assoc (first : Logged ε α) {γ : Type} (next : α → Logged ε β)
    (last : β → Logged ε γ) :
    (first.bind next).bind last = first.bind fun a => (next a).bind last := by
  obtain ⟨records, result⟩ := first
  cases result with
  | error e => rfl
  | ok a =>
    simp only [Logged.bind]
    cases (next a).result <;> simp

protected theorem bind_pure (first : Logged ε α) : first.bind (fun a => ⟨[], .ok a⟩) = first := by
  obtain ⟨records, result⟩ := first
  cases result <;> simp [Logged.bind]

instance : LawfulMonad (Logged ε) := by
  refine LawfulMonad.mk' _ ?_ ?_ ?_
  · intro _ x
    exact Logged.bind_pure x
  · intro _ _ a f
    simp [bind, Logged.bind, pure]
  · intro _ _ _ x f g
    exact Logged.bind_assoc x f g

/-- One record. -/
def log (level : LogLevel) (text : String) : Logged ε Unit := ⟨[⟨level, text⟩], .ok ()⟩

/-- The same with another kind of error. -/
def mapError {ε' : Type} (f : ε → ε') (first : Logged ε α) : Logged ε' α :=
  ⟨first.records, first.result.mapError f⟩

end Logged

end NetTimeline
