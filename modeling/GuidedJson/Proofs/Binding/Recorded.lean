import GuidedJson.Binding.Matcher
import GuidedJson.Proofs.Results

/-!
# Recorded libraries

Any library can be asked through a record of what it is asked. The record tells the questions in
order, with the diagnostics of those that failed, and changes nothing else.
-/

namespace GuidedJson.Binding

/-! ## Questions -/

/-- What a library is asked; a compiler is asked for with the vocabulary that was indexed for it. -/
inductive Query where
  | index (v : Vocabulary)
  | compiler (v : Vocabulary)
  | compile (text : String) (indent : Option Int)
  | walker

/-- A question, with the diagnostic if it failed. -/
structure Asked where
  query : Query
  diagnostic : Option String

section Recording

variable {σ Index Compiler Compiled Walker α : Type}

def diagnosticOf : Except String α → Option String
  | .ok _ => none
  | .error text => some text

/-- A call that is recorded. -/
def Outside.recorded (q : Query) (x : Outside σ α) : Outside (σ × List Asked) α := fun s =>
  ((x s.1).1, (x s.1).2, s.2 ++ [⟨q, diagnosticOf (x s.1).1⟩])

/-- A library that records what it is asked. -/
def Library.recorded (library : Library σ Index Compiler Compiled Walker) :
    Library (σ × List Asked) (Vocabulary × Index) Compiler Compiled Walker where
  index v := Outside.recorded (.index v) fun s =>
    ((library.index v s).1.map (v, ·), (library.index v s).2)
  compiler i := (library.compiler i.2).recorded (.compiler i.1)
  compile c text indent := (library.compile c text indent).recorded (.compile text indent)
  walker g := (library.walker g).recorded .walker
  fill w words s := ((library.fill w words s.1).1, (library.fill w words s.1).2, s.2)
  accept := library.accept
  restart := library.restart
  terminated := library.terminated

/-- An engine without its record. -/
def EngineState.plain (s : EngineState (σ × List Asked) Compiler) : EngineState σ Compiler :=
  { outside := s.outside.1, compilers := s.compilers }

end Recording

/-! ## Calls of a library -/

section Calling

variable {σ Compiler α : Type}

end Calling

/-! ## Engines without their record -/

section Mirroring

variable {σ Compiler α β γ δ : Type}

/-- Whether an action on a recorded engine does what another one does without the record; what it
answers may hold more. -/
def Mirrors (g : α → β) (x : Action (EngineState (σ × List Asked) Compiler) α)
    (y : Action (EngineState σ Compiler) β) : Prop :=
  ∀ s, (y.run s.plain).1.result = (x.run s).1.result.map g ∧ (y.run s.plain).2 = (x.run s).2.plain

theorem Mirrors.bind {g : α → β} {h : γ → δ} {x : Action (EngineState (σ × List Asked) Compiler) α}
    {y : Action (EngineState σ Compiler) β}
    {f : α → Action (EngineState (σ × List Asked) Compiler) γ}
    {k : β → Action (EngineState σ Compiler) δ} (hx : Mirrors g x y)
    (hf : ∀ a, Mirrors h (f a) (k (g a))) : Mirrors h (x >>= f) (y >>= k) := by
  intro s
  obtain ⟨hresult, hstate⟩ := hx s
  cases ha : (x.run s).1.result with
  | ok a =>
    rw [ha] at hresult
    rw [Action.run_bind_ok f ha, Action.run_bind_ok k hresult, hstate]
    exact hf a _
  | error e =>
    rw [ha] at hresult
    rw [Action.run_bind_error f ha, Action.run_bind_error k hresult, hstate]
    exact ⟨rfl, rfl⟩

end Mirroring

section Recorded

variable {σ Index Compiler Compiled Walker : Type}
variable (library : Library σ Index Compiler Compiled Walker)

end Recorded

end GuidedJson.Binding
