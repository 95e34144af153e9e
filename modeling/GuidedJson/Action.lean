import GuidedJson.Logged

/-! # Actions on a state

An action changes a state, logs, and answers or fails. A failure does not undo anything: the state
stays as far as it was changed.
-/

namespace GuidedJson

/-- An operation on a state. -/
def Action (σ α : Type) : Type := σ → Logged α × σ

namespace Action

variable {σ α β : Type}

def run (x : Action σ α) (s : σ) : Logged α × σ := x s

instance : Monad (Action σ) where
  pure a := fun s => (pure a, s)
  bind x f := fun s =>
    let (r, s) := x.run s
    match r.result with
    | .ok a =>
      let (q, s) := (f a).run s
      (⟨r.log ++ q.log, q.result⟩, s)
    | .error e => (⟨r.log, .error e⟩, s)

instance : MonadStateOf σ (Action σ) where
  get := fun s => (pure s, s)
  set s := fun _ => (pure (), s)
  modifyGet f := fun s => let (a, s) := f s; (pure a, s)

instance : MonadExceptOf Failure (Action σ) where
  throw e := fun s => (throw e, s)
  tryCatch x f := fun s =>
    let (r, s) := x.run s
    match r.result with
    | .ok a => (⟨r.log, .ok a⟩, s)
    | .error e =>
      let (q, s) := (f e).run s
      (⟨r.log ++ q.log, q.result⟩, s)

instance : MonadLift Logged (Action σ) where
  monadLift x := fun s => (x, s)

instance : MonadLift (Except Failure) (Action σ) where
  monadLift x := fun s => (⟨[], x⟩, s)

/-- The result of an action with its log, or its failure, as a value. Nothing is logged. -/
def observe (x : Action σ α) : Action σ (Logged α) := fun s =>
  let (r, s) := x.run s
  (pure r, s)

/-- An action on a part of the state. -/
def zoom {τ : Type} (part : σ → τ) (put : τ → σ → σ) (x : Action τ α) : Action σ α := fun s =>
  let (r, t) := x.run (part s)
  (r, put t s)

theorem run_pure (a : α) (s : σ) : (pure a : Action σ α).run s = (pure a, s) := rfl

section Bind

variable {s : σ} {a : α} {e : Failure} (f : α → Action σ β)

/-- What comes after a success goes on from its state. -/
theorem run_bind_ok {x : Action σ α} (h : (x.run s).1.result = .ok a) : (x >>= f).run s =
    let (q, t) := (f a).run (x.run s).2
    (⟨(x.run s).1.log ++ q.log, q.result⟩, t) := by
  show (match (x.run s).1.result with
    | .ok a =>
      let (q, s') := (f a).run (x.run s).2
      ((⟨(x.run s).1.log ++ q.log, q.result⟩ : Logged β), s')
    | .error e => (⟨(x.run s).1.log, .error e⟩, (x.run s).2)) = _
  rw [h]

/-- What comes after a failure is not done. -/
theorem run_bind_error {x : Action σ α} (h : (x.run s).1.result = .error e) :
    (x >>= f).run s = (⟨(x.run s).1.log, .error e⟩, (x.run s).2) := by
  show (match (x.run s).1.result with
    | .ok a =>
      let (q, s') := (f a).run (x.run s).2
      ((⟨(x.run s).1.log ++ q.log, q.result⟩ : Logged β), s')
    | .error e => (⟨(x.run s).1.log, .error e⟩, (x.run s).2)) = _
  rw [h]

theorem run_logged_bind_ok {x : Logged α} (h : x.result = .ok a) :
    ((liftM x : Action σ α) >>= f).run s =
      let (q, t) := (f a).run s
      (⟨x.log ++ q.log, q.result⟩, t) :=
  run_bind_ok f h

theorem run_logged_bind_error {x : Logged α} (h : x.result = .error e) :
    ((liftM x : Action σ α) >>= f).run s = (⟨x.log, .error e⟩, s) :=
  run_bind_error f h

theorem run_ok_bind (a : α) : ((liftM (.ok a : Except Failure α) : Action σ α) >>= f).run s =
    (f a).run s :=
  run_bind_ok f rfl

theorem run_error_bind (e : Failure) :
    ((liftM (.error e : Except Failure α) : Action σ α) >>= f).run s = (⟨[], .error e⟩, s) :=
  run_bind_error f rfl

theorem run_get_bind (f : σ → Action σ β) : (get >>= f).run s = (f s).run s :=
  run_bind_ok f rfl

theorem run_set_bind (t : σ) (f : PUnit → Action σ β) : (set t >>= f).run s = (f ⟨⟩).run t :=
  run_bind_ok f rfl

end Bind

end Action

end GuidedJson
