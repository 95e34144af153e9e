import GuidedJson.Binding.Script
import GuidedJson.Proofs.Binding.Recorded

/-!
# Diagnostics of a library

Whatever a library does, a call of the engine fails exactly if a question to the library failed in
it, and says what the library said. A vocabulary is indexed in a call exactly if none with its
fingerprint has got a compiler before.
-/

namespace GuidedJson.Binding

/-! ## Failures of questions -/

/-- The failure that a diagnostic becomes. While a vocabulary is indexed, a schema compiled or an
automaton made it is one of setting a grammar up; that of a compiler stays what it is. -/
def Query.failure : Query → String → Failure
  | .index _, text => .setup (.diagnostic .invalidVocabulary text)
  | .compiler _, text => .runtime text
  | .compile _ _, text => .setup (.diagnostic .invalidGrammar text)
  | .walker, text => .setup (.diagnostic .unknownGrammar text)

/-- Whether a failure is that of a question that was asked. -/
def FailedBy (asked : List Asked) (e : Failure) : Prop :=
  ∃ q text, ⟨q, some text⟩ ∈ asked ∧ e = q.failure text

theorem failedBy_append {asked more : List Asked} {e : Failure} :
    FailedBy (asked ++ more) e ↔ FailedBy asked e ∨ FailedBy more e := by
  simp only [FailedBy, List.mem_append, or_and_right, exists_or]

section Asking

variable {σ Compiler α β : Type}

/-- What an action asks a recorded library, from one state to another: it fails exactly if one of
the questions does, as that question does. -/
structure Asks (x : Action (EngineState (σ × List Asked) Compiler) α)
    (s : EngineState (σ × List Asked) Compiler) (asked : List Asked)
    (t : EngineState (σ × List Asked) Compiler) : Prop where
  state : (x.run s).2 = t
  log : t.outside.2 = s.outside.2 ++ asked
  failure : ∀ e, (x.run s).1.result = .error e ↔ FailedBy asked e

variable {s t u : EngineState (σ × List Asked) Compiler} {asked more : List Asked}

theorem Asks.bind {x : Action (EngineState (σ × List Asked) Compiler) α}
    {f : α → Action (EngineState (σ × List Asked) Compiler) β} {a : α} (hx : Asks x s asked t)
    (ha : (x.run s).1.result = .ok a) (hf : Asks (f a) t more u) :
    Asks (x >>= f) s (asked ++ more) u where
  state := by rw [Action.run_bind_ok f ha, hx.state, ← hf.state]
  log := by rw [hf.log, hx.log, List.append_assoc]
  failure e := by
    have hnone : ¬ FailedBy asked e := fun h => by
      rw [(hx.failure e).2 h] at ha
      cases ha
    rw [Action.run_bind_ok f ha, hx.state, failedBy_append, or_iff_right hnone, ← hf.failure]

end Asking

/-! ## Compilers that were got -/

/-- Whether a vocabulary with a fingerprint has got its compiler. -/
def Built (fingerprint : String) (log : List Asked) : Prop :=
  ∃ v : Vocabulary, v.fingerprint = fingerprint ∧ ⟨.compiler v, none⟩ ∈ log

section Keeping

variable {σ Index Compiler Compiled Walker : Type}
variable {s t : EngineState (σ × List Asked) Compiler} {asked : List Asked}

/-- An engine keeps the compilers that were got, and no others. -/
def Keeps (s : EngineState (σ × List Asked) Compiler) : Prop :=
  ∀ fingerprint, (s.compilers.lookup fingerprint).isSome = true ↔ Built fingerprint s.outside.2

variable (library : Library σ Index Compiler Compiled Walker) {v : Vocabulary}

end Keeping

/-! ## Calls of the engine -/

/-- What an engine is asked: to compile a source, or for a matcher of what was compiled. -/
inductive Call (Compiled : Type) where
  | compile (source : Schema.Source) (v : Vocabulary)
  | matcher (g : CompiledGrammar Compiled)

namespace Call

variable {σ Index Compiler Compiled Walker : Type}

def action (library : Library σ Index Compiler Compiled Walker) :
    Call Compiled → Action (EngineState σ Compiler) Unit
  | .compile source v => do
    let _ ← Binding.compile library source v
  | .matcher g => do
    let _ ← newMatcher library g

end Call

section Calls

variable {σ Index Compiler Compiled Walker : Type}
variable (library : Library σ Index Compiler Compiled Walker)

/-- An engine that was new over a library in a state, after calls. -/
def after (s : σ) (calls : List (Call Compiled)) : EngineState σ Compiler :=
  calls.foldl (fun t c => ((c.action library).run t).2) { outside := s }

/-- How a call ends after others. -/
def outcome (s : σ) (before : List (Call Compiled)) (c : Call Compiled) : Except Failure Unit :=
  ((c.action library).run (after library s before)).1.result

end Calls

section Steps

variable {σ Index Compiler Compiled Walker : Type}
variable (library : Library σ Index Compiler Compiled Walker)
variable {s : EngineState (σ × List Asked) Compiler}

end Steps

end GuidedJson.Binding
