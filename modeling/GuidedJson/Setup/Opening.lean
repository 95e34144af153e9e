import GuidedJson.Cache
import GuidedJson.Vocabulary.Resolution
import GuidedJson.Vocabulary.TokenizerFile

/-! # Opening requests

A request names a schema and a model. Its vocabulary is at hand, or is built from the files of the
model; then its grammar is compiled, through a cache if there is one.
-/

namespace GuidedJson

open Vocabulary (Declaration ModelPlace)

/-- Where a request takes its vocabulary from. Of files, the tokens that end a text besides the
declared one are those of the settings, unless they are given. -/
inductive VocabularyChoice where
  | built (v : Vocabulary)
  | files (place : ModelPlace) (file? : String → Option String) (extraEos : Option (List String))

def VocabularyChoice.resolve [Memory] (settings : Settings) : VocabularyChoice → Except Failure Vocabulary
  | .built v => .ok v
  | .files place file? extraEos => do
    let declaration ← Declaration.ofFiles place file?
    declaration.vocabulary (extraEos.getD settings.extraEos)

/-- What a grammar is asked for. -/
structure GrammarRequest where
  vocabulary : VocabularyChoice
  input : Schema.Input
  indent : Option Int
  engine : EngineChoice

namespace GrammarRequest

variable [Memory] (r : GrammarRequest) (settings : Settings)

/-- The grammar of a request, compiled for it. -/
def compile : Logged Grammar := do
  let v ← (r.vocabulary.resolve settings : Except Failure Vocabulary)
  Grammar.ofSchema settings r.input v r.indent r.engine

/-- The grammar of a request through a cache. -/
def compileThrough {α : Type} (compile : Engine → Schema.Source → Vocabulary → Logged α) :
    Action (Cache α) α := do
  let v ← (r.vocabulary.resolve settings : Except Failure Vocabulary)
  Cache.getOrCompile settings compile r.input v r.indent r.engine

end GrammarRequest

end GuidedJson
