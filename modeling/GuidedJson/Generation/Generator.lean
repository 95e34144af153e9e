import GuidedJson.Cache
import GuidedJson.Generation.Loop

/-! # Generators

A generator joins a model, its vocabulary, an engine and a cache of grammars. For a request it
takes the grammar from the cache, has the model generate under it, and reports whether the text is
complete. A token that the grammar rejects stays in the text and is counted.
-/

namespace GuidedJson.Generation

open Decoding (Request Workspace)
open Number (Binary)

/-- What a model is asked to generate. -/
structure Task where
  prompt : String
  limit : Int
  temperature : Binary
  stop : List Nat
  others : List (String × Value)

/-- What a model gives back. -/
structure Generated where
  text : String
  ids : List Int

/-- A model generates for a task, and drives the processor of a number while it does. -/
abbrev Model := Task → (processor : Nat) → Request Generated

/-- A sampler as a model; every generation stands behind the same prompt tokens. -/
def Sampler.model (s : Sampler) (v : Vocabulary) (prompt : List Int) : Model := fun task p => do
  let ids ← s.generate task.stop p prompt task.limit.toNat
  return ⟨storedText v ids, ids⟩

/-- What became of a generation. -/
structure Outcome where
  output : String
  complete : Bool
  rejected : Nat
  tokens : Nat
deriving DecidableEq, Repr

/-- One generation under a grammar, in a session of its own. -/
def perform (model : Model) (g : Grammar) (task : Task) : Logged Outcome := do
  let request : Request Outcome := do
    let (s, m, k) ← Workspace.newSession
    let p ← Workspace.sessionProcessor s
    let generated ← model task p
    let complete ← Workspace.canTerminate m
    let rejected := (← Workspace.step k).counts.rejected
    Workspace.closeSession s
    return ⟨generated.text, complete, rejected, generated.ids.length⟩
  let outcome ← (request.run (.ofGrammar g)).1
  if outcome.rejected ≠ 0 then
    Logged.warning ("Generation finished with " ++ toString outcome.rejected ++ " rejected tokens")
  return outcome

/-! ## Generators -/

structure Generator where
  name : String
  device : Option String
  extraEos : List String
  vocabulary : Vocabulary
  engine : Engine

namespace Generator

/-- A generator for a model. The settings say what is not given; an empty device is not given. The
vocabulary is asked for before the engine is chosen. -/
def ofModel (settings : Settings) (name : String) (device : Option String) (engine : EngineChoice)
    (extraEos : Option (List String)) (vocabulary : List String → Except Failure Vocabulary) :
    Except Failure Generator := do
  let device := match device with
    | some d => if d.isEmpty then settings.device else some d
    | none => settings.device
  let extraEos := extraEos.getD settings.extraEos
  let vocabulary ← vocabulary extraEos
  return { name, device, extraEos, vocabulary, engine := ← engine.resolve settings }

variable (g : Generator)

/-- The grammar of a request. -/
def grammar (input : Schema.Input) (indent : Option Int) : Action (Cache Grammar) Grammar :=
  Cache.getOrCompile {} Engine.compile input g.vocabulary indent (.engine g.engine)

/-- The task of a request: the stop tokens are those of the vocabulary. -/
def task (prompt : String) (limit : Int) (temperature : Binary) (others : List (String × Value)) :
    Task :=
  { prompt, limit, temperature, stop := g.vocabulary.stop, others }

/-- One request from its schema to its outcome. -/
def generate (model : Model) (input : Schema.Input) (indent : Option Int) (task : Task) :
    Action (Cache Grammar) Outcome := do
  let grammar ← g.grammar input indent
  (perform model grammar task : Logged Outcome)

def describe : String :=
  "GrammarConstrainedGenerator(model=" ++ g.name ++ ", engine=" ++ g.engine.name ++ ")"

end Generator

end GuidedJson.Generation
