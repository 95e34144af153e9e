import GuidedJson.Action
import GuidedJson.Binding.Library
import GuidedJson.Schema.Source

/-! # The engine over an outside library

Every failure of the library while a vocabulary is indexed, a schema compiled or an automaton made
becomes a failure of setting a grammar up, with the library's diagnostic. A vocabulary is indexed
once; one whose indexing failed is indexed again.
-/

namespace GuidedJson.Binding

/-- A compiled schema with the source and the vocabulary that it comes from. -/
structure CompiledGrammar (Compiled : Type) where
  source : Schema.Source
  vocabulary : Vocabulary
  handle : Compiled

namespace CompiledGrammar

variable {Compiled : Type} (g : CompiledGrammar Compiled)

/-- The stop tokens alone. -/
def stopMask : Mask := Mask.ofIds g.vocabulary.size g.vocabulary.stop

end CompiledGrammar

/-- The library's state, and its compilers by the fingerprint of their vocabulary. -/
structure EngineState (σ Compiler : Type) where
  outside : σ
  compilers : List (String × Compiler) := []

section

variable {σ Index Compiler Compiled Walker : Type}

/-- A call of the library, whose diagnostic becomes a failure of a kind. -/
def translated {α : Type} (kind : SetupKind) (x : Outside σ α) :
    Action (EngineState σ Compiler) α := do
  let state : EngineState σ Compiler ← get
  let (answer, outside) := x state.outside
  set { state with outside }
  match answer with
  | .ok a => return a
  | .error text => throw (.setup (.diagnostic kind text))

/-- A call of the library whose diagnostic is passed on as it is. -/
def untranslated {α : Type} (x : Outside σ α) : Action (EngineState σ Compiler) α := do
  let state : EngineState σ Compiler ← get
  let (answer, outside) := x state.outside
  set { state with outside }
  match answer with
  | .ok a => return a
  | .error text => throw (.runtime text)

variable (library : Library σ Index Compiler Compiled Walker)

/-- The compiler of a vocabulary; a vocabulary that is new is indexed. -/
def compilerOf (v : Vocabulary) : Action (EngineState σ Compiler) Compiler := do
  let key ← (v.fingerprint? : Except Failure String)
  let state : EngineState σ Compiler ← get
  match state.compilers.lookup key with
  | some c => return c
  | none =>
    let index ← translated .invalidVocabulary (library.index v)
    let c ← untranslated (library.compiler index)
    modify fun s => { s with compilers := (key, c) :: s.compilers }
    return c

/-- Compiles a source against a vocabulary. -/
def compile (source : Schema.Source) (v : Vocabulary) :
    Action (EngineState σ Compiler) (CompiledGrammar Compiled) := do
  let c ← compilerOf library v
  let handle ← translated .invalidGrammar (library.compile c source.text source.indent)
  return { source, vocabulary := v, handle }

end

end GuidedJson.Binding
