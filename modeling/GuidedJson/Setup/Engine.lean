import GuidedJson.Failure
import GuidedJson.Setup.Settings

/-! # Engines

Grammars are compiled by the automaton of this library, or by an outside one.
-/

namespace GuidedJson

inductive Engine where
  | automaton
  | outside
deriving DecidableEq, Repr

namespace Engine

def name : Engine → String
  | .automaton => "fsm"
  | .outside => "xgrammar"

/-- The engine of a name in any case; the setting where no name is given. -/
def ofName (settings : Settings) (name : Option String) : Except Failure Engine :=
  let name := Text.lower (name.getD settings.engine)
  if name = Engine.automaton.name then .ok .automaton
  else if name = Engine.outside.name then .ok .outside
  else .error (.argument (.engine name))

end Engine

end GuidedJson
