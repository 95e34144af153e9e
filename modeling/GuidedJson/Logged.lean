import GuidedJson.Failure

/-! # Results with a log

An operation answers with a value or a failure, and with the records it logged until then. What
was logged before a failure stays logged.
-/

namespace GuidedJson

/-- The levels that reach a reader. -/
inductive Level where
  | warning
  | error
deriving DecidableEq, Repr

def Level.name : Level → String
  | .warning => "WARNING"
  | .error => "ERROR"

/-- A line of the log. -/
structure Record where
  level : Level
  text : String
deriving DecidableEq, Repr

/-- A result and the log that led to it. -/
structure Logged (α : Type) where
  log : List Record
  result : Except Failure α

namespace Logged

variable {α β : Type}

def bind (x : Logged α) (f : α → Logged β) : Logged β :=
  match x.result with
  | .ok a =>
    let y := f a
    ⟨x.log ++ y.log, y.result⟩
  | .error e => ⟨x.log, .error e⟩

instance : Monad Logged where
  pure a := ⟨[], .ok a⟩
  bind := bind

instance : MonadExceptOf Failure Logged where
  throw e := ⟨[], .error e⟩
  tryCatch x f :=
    match x.result with
    | .ok a => ⟨x.log, .ok a⟩
    | .error e =>
      let y := f e
      ⟨x.log ++ y.log, y.result⟩

instance : MonadLift (Except Failure) Logged where
  monadLift x := ⟨[], x⟩

@[simp] theorem result_monadLift (x : Except Failure α) : (monadLift x : Logged α).result = x := rfl

/-- Writes one record. -/
def record (level : Level) (text : String) : Logged Unit := ⟨[⟨level, text⟩], .ok ()⟩

def warning (text : String) : Logged Unit := record .warning text

def error (text : String) : Logged Unit := record .error text

/-- The result, or the failure as a value; the log is kept. -/
def attempt (x : Logged α) : Logged (Except Failure α) := ⟨x.log, .ok x.result⟩

/-- The same result without its log. -/
def quiet (x : Logged α) : Logged α := ⟨[], x.result⟩

/-! ## Laws -/

@[simp] theorem log_pure (a : α) : (pure a : Logged α).log = [] := rfl

@[simp] theorem result_pure (a : α) : (pure a : Logged α).result = .ok a := rfl

theorem result_bind_ok {x : Logged α} {a : α} (h : x.result = .ok a) (f : α → Logged β) :
    (x >>= f).result = (f a).result := by
  show (bind x f).result = _
  simp [bind, h]

theorem result_bind_error {x : Logged α} {e : Failure} (h : x.result = .error e)
    (f : α → Logged β) : (x >>= f).result = .error e := by
  show (bind x f).result = _
  simp [bind, h]

theorem pure_bind (a : α) (f : α → Logged β) : (pure a >>= f) = f a := by
  show bind ⟨[], .ok a⟩ f = f a
  simp [bind]

end Logged

end GuidedJson
