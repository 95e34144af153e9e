import GuidedJson.Action

/-!
# Results of steps

When an operation that is made of steps has a result: each of its steps has one.
-/

namespace GuidedJson

section Results

variable {α β ε : Type}

theorem exceptBind_eq_ok {x : Except ε α} {f : α → Except ε β} {b : β} :
    (x >>= f) = .ok b ↔ ∃ a, x = .ok a ∧ f a = .ok b := by
  cases x <;> simp [bind, Except.bind]

theorem exceptMap_eq_ok {x : Except ε α} {f : α → β} {b : β} :
    x.map f = .ok b ↔ ∃ a, x = .ok a ∧ f a = b := by
  cases x <;> simp [Except.map]

theorem exceptMapError_eq_ok {δ : Type} {x : Except ε α} {f : ε → δ} {a : α} :
    x.mapError f = .ok a ↔ x = .ok a := by
  cases x with
  | error e => exact ⟨nofun, nofun⟩
  | ok b => exact ⟨fun h => congrArg _ (Except.ok.inj h), fun h => congrArg _ (Except.ok.inj h)⟩

theorem exists_of_mem_mapM {f : α → Except ε β} {as : List α} {bs : List β} {b : β}
    (h : as.mapM f = .ok bs) (hb : b ∈ bs) : ∃ a ∈ as, f a = .ok b := by
  induction as generalizing bs with
  | nil =>
    cases h
    cases hb
  | cons a as ih =>
    rw [List.mapM_cons] at h
    obtain ⟨c, hc, h⟩ := exceptBind_eq_ok.1 h
    obtain ⟨cs, hcs, h⟩ := exceptBind_eq_ok.1 h
    cases h
    rcases List.mem_cons.1 hb with rfl | hb
    · exact ⟨a, List.mem_cons_self .., hc⟩
    · obtain ⟨a', ha', heq⟩ := ih hcs hb
      exact ⟨a', List.mem_cons_of_mem _ ha', heq⟩

theorem Logged.result_bind_eq_ok {x : Logged α} {f : α → Logged β} {b : β} :
    (x >>= f).result = .ok b ↔ ∃ a, x.result = .ok a ∧ (f a).result = .ok b := by
  cases h : x.result with
  | ok a => simp [Logged.result_bind_ok h]
  | error e => simp [Logged.result_bind_error h]

end Results

namespace Action

variable {σ α β : Type}

/-- Whether an action has a result from a state, and the state that it leaves. -/
def Yields (x : Action σ α) (s : σ) (a : α) (t : σ) : Prop :=
  (x.run s).1.result = .ok a ∧ (x.run s).2 = t

theorem Yields.bind {x : Action σ α} {f : α → Action σ β} {s t u : σ} {a : α} {b : β}
    (hx : x.Yields s a t) (hf : (f a).Yields t b u) : (x >>= f).Yields s b u := by
  obtain ⟨hresult, rfl⟩ := hx
  rw [Yields, run_bind_ok f hresult]
  exact hf

/-- Whether an action fails from a state, and the state that it leaves. -/
def Fails (x : Action σ α) (s : σ) (e : Failure) (t : σ) : Prop :=
  (x.run s).1.result = .error e ∧ (x.run s).2 = t

theorem Fails.bind {x : Action σ α} {s t : σ} {e : Failure} (hx : x.Fails s e t)
    (f : α → Action σ β) : (x >>= f).Fails s e t := by
  obtain ⟨hresult, rfl⟩ := hx
  rw [Fails, run_bind_error f hresult]
  exact ⟨rfl, rfl⟩

theorem Yields.bind_fails {x : Action σ α} {f : α → Action σ β} {s t u : σ} {a : α} {e : Failure}
    (hx : x.Yields s a t) (hf : (f a).Fails t e u) : (x >>= f).Fails s e u := by
  obtain ⟨hresult, rfl⟩ := hx
  rw [Fails, run_bind_ok f hresult]
  exact hf

theorem yields_bind_iff {x : Action σ α} {f : α → Action σ β} {s u : σ} {b : β} :
    (x >>= f).Yields s b u ↔ ∃ a t, x.Yields s a t ∧ (f a).Yields t b u := by
  constructor
  · intro h
    cases hx : (x.run s).1.result with
    | ok a =>
      rw [Yields, run_bind_ok f hx] at h
      exact ⟨a, _, ⟨hx, rfl⟩, h⟩
    | error e =>
      rw [Yields, run_bind_error f hx] at h
      cases h.1
  · rintro ⟨a, t, hx, hf⟩
    exact hx.bind hf

/-- A result that is observed is a value, and so is a failure. -/
theorem Yields.observe {x : Action σ α} {s t : σ} {a : α} (h : x.Yields s a t) :
    ∃ r, x.observe.Yields s r t ∧ r.result = .ok a :=
  ⟨(x.run s).1, ⟨rfl, h.2⟩, h.1⟩

theorem Fails.observe {x : Action σ α} {s t : σ} {e : Failure} (h : x.Fails s e t) :
    ∃ r, x.observe.Yields s r t ∧ r.result = .error e :=
  ⟨(x.run s).1, ⟨rfl, h.2⟩, h.1⟩

/-- An action has one result from a state, and leaves one. -/
theorem Yields.unique {x : Action σ α} {s t u : σ} {a b : α} (h : x.Yields s a t)
    (h' : x.Yields s b u) : a = b ∧ t = u :=
  ⟨Except.ok.inj (h.1.symm.trans h'.1), h.2.symm.trans h'.2⟩

theorem Yields.not_fails {x : Action σ α} {s t : σ} {a : α} (h : x.Yields s a t) (e : Failure)
    (u : σ) : ¬ x.Fails s e u := by
  intro hfails
  cases h.1.symm.trans hfails.1

/-- What is bound to a bound action is bound to what it is bound to. -/
theorem bind_assoc {γ : Type} (x : Action σ α) (f : α → Action σ β) (k : β → Action σ γ) :
    x >>= f >>= k = x >>= fun a => f a >>= k := by
  funext s
  show run (x >>= f >>= k) s = run (x >>= fun a => f a >>= k) s
  cases hx : (x.run s).1.result with
  | error e =>
    have hxf := run_bind_error f hx
    rw [run_bind_error _ hx, run_bind_error k (by rw [hxf]), hxf]
  | ok a =>
    have hxf := run_bind_ok f hx
    rw [run_bind_ok (fun a => f a >>= k) hx]
    cases hf : ((f a).run (x.run s).2).1.result with
    | error e =>
      rw [run_bind_error k (by rw [hxf]; exact hf), run_bind_error k hf, hxf]
    | ok b =>
      rw [run_bind_ok k (by rw [hxf]; exact hf), run_bind_ok k hf, hxf]
      simp only [List.append_assoc]

end Action

end GuidedJson
