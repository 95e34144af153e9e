import GuidedJson.Grammar.Index
import GuidedJson.Schema.Source

/-! # Compiled grammars

A source and a vocabulary together: the automaton of the source's pattern, and the mask of every
position that tokens of the vocabulary can reach and lead on from.
-/

namespace GuidedJson

open Automaton (Machine Position)
open Schema (Source)

structure Grammar where
  source : Source
  vocabulary : Vocabulary
  pattern : String
  machine : Machine
  masks : Std.HashMap Position Mask

namespace Grammar

/-! ## Compilation -/

/-- The pattern of a source. The text is read again: it is all that a grammar is made from. -/
def patternOf (source : Source) : Logged String :=
  match Json.parse source.text with
  | .error refusal => throw (.ofJson (fun fault => .schema (.json fault)) refusal)
  | .ok document => do
    let node ← (Schema.Input.document document).node?
    (node.pattern source.indent : Except Failure String)

/-- The automaton of a pattern. -/
def machineOf (pattern : String) : Except Failure Machine :=
  (Machine.ofPattern pattern).mapError fun fault => .setup (.automaton fault)

/-- The masks of an automaton. There must be a token with text, a text that the automaton accepts,
and tokens that spell one. -/
def index (machine : Machine) (v : Vocabulary) : Except Failure (Std.HashMap Position Mask) := do
  v.checkReadable
  if Vocabulary.Trie.tokenCount v = 0 then throw (.vocabulary .noText)
  if !machine.alive Machine.start then throw (.setup .noTexts)
  let found := Index.masks machine (.ofVocabulary v) v
  if found.contains Machine.origin then return found else throw (.vocabulary .unspellable)

/-- Compiles a source against a vocabulary. -/
def compile (source : Source) (v : Vocabulary) : Logged Grammar := do
  let pattern ← patternOf source
  let machine ← (machineOf pattern : Except Failure Machine)
  let masks ← (index machine v : Except Failure _)
  return { source, vocabulary := v, pattern, machine, masks }

/-! ## Positions -/

variable (g : Grammar)

/-- Whether tokens lead to a position, and on from it to an end. -/
def isProductive (p : Position) : Bool := g.masks.contains p

/-- The tokens that are allowed at a position. -/
def maskAt (p : Position) : Mask := g.masks.getD p (Mask.clear g.vocabulary.words)

/-- The stop tokens alone. -/
def stopMask : Mask := Mask.ofIds g.vocabulary.size g.vocabulary.stop

end Grammar

end GuidedJson
