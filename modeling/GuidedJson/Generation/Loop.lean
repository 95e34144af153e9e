import GuidedJson.Decoding.Workspace

/-! # The decoding loop

A model scores the next token, a processor masks the scores, and a sampler picks a token; so on
until a stop token is picked or the limit is reached. The processor is called once before every
token, with all tokens so far, and not again after the last one.
-/

namespace GuidedJson.Generation

open Decoding (Request Scores Workspace)
open Number (Binary)

/-- The scores of every step, and the token that is picked from its masked scores. -/
structure Sampler where
  scores : Nat → Scores
  pick : Nat → List Binary → Int

namespace Sampler

/-- At most so many further tokens behind the prompt and those that are generated. -/
def extend (s : Sampler) (stop : List Nat) (p : Nat) (prompt : List Int) :
    (more : Nat) → (generated : List Int) → Request (List Int)
  | 0, generated => return generated
  | more + 1, generated => do
    let i := generated.length
    let ids := (prompt ++ generated).map Value.int
    let masked ← Workspace.call p .float32 [ids] (s.scores i)
    let token := s.pick i masked.flat
    let generated := generated ++ [token]
    if stop.any (fun id => (id : Int) == token) then return generated
    else extend s stop p prompt more generated

/-- The tokens of a new generation. -/
def generate (s : Sampler) (stop : List Nat) (p : Nat) (prompt : List Int) (limit : Nat) :
    Request (List Int) := do
  Workspace.resetProcessor p
  s.extend stop p prompt limit []

/-- A sampler that plays rows of scores in turn. At a step for which a token is given it picks
that, elsewhere the first largest score. -/
def ofRows (rows : Array (List Binary)) (given : Array (Option Int)) : Sampler where
  scores i := .rows [.vector (rows.getD (i % rows.size) [])]
  pick i masked := (given.getD i none).getD (Decoding.firstMaximum masked)

end Sampler

/-- The tokens as they are stored, one after the other; stop tokens and ids that are no token are
left out. -/
def storedText (v : Vocabulary) (ids : List Int) : String :=
  String.join (ids.map fun id =>
    if Vocabulary.inTable v.size id && !v.isStop id.toNat then v.tokens.getD id.toNat "" else "")

end GuidedJson.Generation
