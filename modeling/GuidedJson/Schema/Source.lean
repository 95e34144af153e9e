import GuidedJson.Schema.Canonical
import GuidedJson.Schema.Parser
import GuidedJson.Schema.PatternText
import GuidedJson.Text.Blank

/-! # Sources of grammars

A schema is given as a document, as a text, or as a node. Whatever the form, a grammar is made
from its canonical text and an indentation.
-/

namespace GuidedJson.Schema

/-- The forms in which a schema is given. -/
inductive Input where
  | document (v : Value)
  | text (s : String)
  | node (n : Node)

/-- The schema of a text. -/
def parseText? (s : String) : Logged Node :=
  if Text.isBlankText s then throw (.setup .emptyGrammar)
  else
    match Json.parse s with
    | .error refusal => throw (.ofJson (fun fault => .schema (.json fault)) refusal)
    | .ok v => parse v

namespace Input

/-- The schema that is given; a document that is a text is read as one. -/
def node? : Input → Logged Node
  | .document (.string s) => parseText? s
  | .document v => parse v
  | .text s => parseText? s
  | .node n => pure n

/-- The canonical text of what is given. A document that is neither object nor text has its own
canonical text, although it is no schema. -/
def canonicalText : Input → Logged String
  | .document (.object ms) => do (← parse (.object ms)).canonicalText
  | .document (.string s) => do (← parseText? s).canonicalText
  | .document v => v.canonicalText
  | .text s => do (← parseText? s).canonicalText
  | .node n => n.canonicalText

end Input

/-- A schema text that is not blank, and an indentation that is not negative. -/
structure Source where
  text : String
  indent : Option Int
deriving DecidableEq, Repr

/-- A source; blank text is refused first. -/
def Source.of (text : String) (indent : Option Int) : Except Failure Source :=
  if Text.isBlankText text then .error (.setup .emptyGrammar)
  else do
    Node.checkIndent indent
    return ⟨text, indent⟩

/-- The source of a schema in any form. -/
def Input.source (input : Input) (indent : Option Int) : Logged Source := do
  let text ← input.canonicalText
  Source.of text indent

end GuidedJson.Schema
