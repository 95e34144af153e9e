import GuidedJson.Grammar.Basic
import GuidedJson.Setup.Engine

/-! # Compiling schemas

From a schema in any form to a compiled grammar: first the source is made, then the engine is
chosen, then the engine compiles.
-/

namespace GuidedJson

/-- An engine at hand, or the name of one; without a name the setting counts. -/
inductive EngineChoice where
  | engine (e : Engine)
  | named (name : Option String)

namespace EngineChoice

def resolve (settings : Settings) : EngineChoice → Except Failure Engine
  | .engine e => .ok e
  | .named name => Engine.ofName settings name

/-- Where nothing is named and nothing is set, this library's engine is chosen. -/
theorem resolve_default : (named none).resolve {} = .ok .automaton := by
  have hlower : Text.lower "fsm" = "fsm" := by decide
  simp [resolve, Engine.ofName, hlower, Engine.name]

end EngineChoice

/-- Compiles a source with an engine of this library. -/
def Engine.compile (e : Engine) (source : Schema.Source) (v : Vocabulary) : Logged Grammar :=
  match e with
  | .automaton => Grammar.compile source v
  | .outside => throw (.runtime (Engine.outside.name ++ " is not installed"))

/-- Compiles a schema. -/
def Grammar.ofSchema (settings : Settings) (input : Schema.Input) (v : Vocabulary)
    (indent : Option Int) (choice : EngineChoice) : Logged Grammar := do
  let source ← input.source indent
  let engine ← (choice.resolve settings : Except Failure Engine)
  engine.compile source v

end GuidedJson
