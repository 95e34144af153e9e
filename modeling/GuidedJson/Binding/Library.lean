import GuidedJson.Mask.Words
import GuidedJson.Vocabulary.Basic

/-! # Outside automaton libraries

What is asked of a library that compiles schemas itself: to index a vocabulary, to make a compiler
for an index, to compile a schema text, and to make an automaton that walks what was compiled. A
library has a state of its own, and each of these can fail with a diagnostic.
-/

namespace GuidedJson.Binding

/-- A call of a library with a state: what it answers, or its diagnostic. -/
def Outside (σ α : Type) : Type := σ → Except String α × σ

/-- A library over states `σ`, with indexed vocabularies, compilers, compiled schemas and
automata. -/
structure Library (σ Index Compiler Compiled Walker : Type) where
  index : Vocabulary → Outside σ Index
  compiler : Index → Outside σ Compiler
  compile : Compiler → (text : String) → (indent : Option Int) → Outside σ Compiled
  walker : Compiled → Outside σ Walker
  /-- The mask of an automaton, written into a row of so many words. -/
  fill : Walker → (words : Nat) → σ → Mask × σ
  accept : Walker → Int → Bool × Walker
  restart : Walker → Walker
  terminated : Walker → Bool

end GuidedJson.Binding
