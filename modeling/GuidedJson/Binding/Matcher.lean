import GuidedJson.Binding.Engine

/-! # Matchers over an outside library

A matcher owns an automaton of the library and a buffer. Once a stop token was accepted the
library has no mask, and the stop tokens are what is allowed. Whether a text may stop is read from
a mask in a buffer apart.
-/

namespace GuidedJson.Binding

structure Matcher (Compiled Walker : Type) where
  grammar : CompiledGrammar Compiled
  walker : Walker
  buffer : Mask
  closed : Bool := false

section

variable {σ Index Compiler Compiled Walker : Type}
variable (library : Library σ Index Compiler Compiled Walker)

/-- A new matcher of a compiled grammar; everything is set in its buffer. -/
def newMatcher (g : CompiledGrammar Compiled) :
    Action (EngineState σ Compiler) (Matcher Compiled Walker) := do
  let walker ← translated .unknownGrammar (library.walker g.handle)
  return { grammar := g, walker, buffer := Array.replicate g.vocabulary.words (BitVec.allOnes 32) }

namespace Matcher

variable (m : Matcher Compiled Walker)

def guardOpen : Except Failure Unit :=
  if m.closed then .error (.closed "XGrammarMatcher") else .ok ()

/-- The tokens that are allowed now. -/
def mask : Action (EngineState σ Compiler) Mask := do
  if library.terminated m.walker then return m.grammar.stopMask
  let state : EngineState σ Compiler ← get
  let (mask, outside) := library.fill m.walker m.grammar.vocabulary.words state.outside
  set { state with outside }
  return mask

/-- Overwrites the buffer with the mask. -/
def fill : Action (EngineState σ Compiler) (Matcher Compiled Walker) := do
  m.guardOpen
  return { m with buffer := ← m.mask library }

def advance (id : Int) : Except Failure (Bool × Matcher Compiled Walker) := do
  m.guardOpen
  let (accepted, walker) := library.accept m.walker id
  return (accepted, { m with walker })

def reset : Except Failure (Matcher Compiled Walker) := do
  m.guardOpen
  return { m with walker := library.restart m.walker }

/-- Whether some stop token is in the mask; the buffer stays as it is. -/
def canTerminate : Action (EngineState σ Compiler) Bool := do
  m.guardOpen
  let mask ← m.mask library
  return m.grammar.vocabulary.stop.any mask.test

def isTerminated : Except Failure Bool := do
  m.guardOpen
  return library.terminated m.walker

/-- Closing twice is closing once. -/
def close : Matcher Compiled Walker := { m with closed := true }

end Matcher

end

end GuidedJson.Binding
