import GuidedJson.Display.Fault
import GuidedJson.Json.Mismatch
import GuidedJson.Json.Parser
import GuidedJson.Pattern.Fault

/-! # Failures

Every way in which an operation can have no result, as causes. The wording of a cause is one
function beside it. Setting a grammar up fails in four ways; everything else is an argument that
is refused, a value of the wrong kind, or something missing outside.
-/

namespace GuidedJson

/-! ## Schemas -/

/-- Why parts do not make a schema node. -/
inductive NodeFault where
  | repeatedNames (names : List String)
  | noMembers
  | noChoices
  | repeatedChoices (choices : List String)
  | itemBounds (least most : Value)

/-- A message with values in it. Where one of them cannot be written, that is what is said. -/
def messageOf (text? : Option String) : String := text?.getD (Text.tooManyDigits none)

def NodeFault.message : NodeFault → String
  | .repeatedNames names => "Duplicate property names: " ++ Text.quotedList names
  | .noMembers => "Union requires at least one member"
  | .noChoices => "String enum requires at least one choice"
  | .repeatedChoices choices => "String enum choices must be unique: " ++ Text.quotedList choices
  | .itemBounds least most => messageOf do
    return "minItems " ++ (← least.display?) ++ " exceeds maxItems " ++ (← most.display?)

/-- Why a document is no schema of the language; most causes name their place. -/
inductive SchemaFault where
  | json (fault : Json.Fault)
  | notObject (path kind : String)
  | keyword (path name : String)
  | noType (path : String)
  | unknownType (path : String) (value : Value)
  | properties (path : String)
  | noItems (path : String)
  | union (path : String)
  | choices (path : String)
  | node (path : String) (fault : NodeFault)

def SchemaFault.message : SchemaFault → String
  | .json fault => "Schema is not valid JSON: " ++ fault.message
  | .notObject path kind => "Schema at " ++ path ++ " must be an object, got: " ++ kind
  | .keyword path name => "Keyword '" ++ name ++ "' is not supported (at " ++ path ++ ")"
  | .noType path => "Schema at " ++ path ++ " has no 'type'"
  | .unknownType path value =>
    "Unsupported schema type: " ++ value.inspect ++ " (at " ++ path ++ ")"
  | .properties path => "'properties' at " ++ path ++ " must be an object"
  | .noItems path => "Array schema at " ++ path ++ " requires 'items'"
  | .union path => "Union at " ++ path ++ " needs a non-empty list of members"
  | .choices path => "Only string enums are supported (at " ++ path ++ ")"
  | .node path fault => fault.message ++ " (at " ++ path ++ ")"

/-! ## Setting a grammar up -/

/-- Why a table of tokens is no vocabulary for a grammar. -/
inductive VocabularyFault where
  | empty
  | stopOutside (ids : List Int) (size : Nat)
  | noDeclaredToken
  | noText
  | unspellable
deriving DecidableEq, Repr

def VocabularyFault.message : VocabularyFault → String
  | .empty => "Vocabulary is empty"
  | .stopOutside ids size =>
    "Stop token ids " ++ Text.bracketed (ids.map toString) ++ " outside vocabulary of size " ++
      toString size
  | .noDeclaredToken => "Tokenizer metadata declares no tokens"
  | .noText => "No token in the vocabulary decodes to text"
  | .unspellable => "No token sequence in the vocabulary spells a string the grammar accepts"

/-- The four ways in which setting a grammar up fails, and the general one. -/
inductive SetupKind where
  | setup
  | emptyGrammar
  | invalidGrammar
  | invalidVocabulary
  | unknownGrammar
deriving DecidableEq, Repr

/-- What is said where no cause is given. -/
def SetupKind.message : SetupKind → String
  | .setup => "Grammar setup failed"
  | .emptyGrammar => "Grammar schema text is empty"
  | .invalidGrammar => "Invalid grammar"
  | .invalidVocabulary => "Invalid vocabulary"
  | .unknownGrammar => "Unknown grammar engine error"

/-- Why setting a grammar up failed. A diagnostic is the text of an outside engine. -/
inductive SetupFault where
  | emptyGrammar
  | schema (fault : SchemaFault)
  | automaton (fault : PatternFault)
  | noTexts
  | vocabulary (fault : VocabularyFault)
  | diagnostic (kind : SetupKind) (text : String)

def SetupFault.kind : SetupFault → SetupKind
  | .emptyGrammar => .emptyGrammar
  | .schema _ | .automaton _ | .noTexts => .invalidGrammar
  | .vocabulary _ => .invalidVocabulary
  | .diagnostic kind _ => kind

/-- The cause, or the default of its kind where the cause has no text. -/
def SetupFault.message : SetupFault → String
  | .emptyGrammar => SetupKind.emptyGrammar.message
  | .schema fault => fault.message
  | .automaton fault => "Could not build automaton from schema: " ++ fault.message
  | .noTexts => "Grammar accepts no strings"
  | .vocabulary fault => fault.message
  | .diagnostic kind text => if text = "" then kind.message else text

/-! ## Refused arguments -/

/-- Arguments whose value is refused. -/
inductive ArgumentFault where
  | indent (n : Int)
  | node (fault : NodeFault)
  | integer (fault : Value.IntegerFault)
  | engine (name : String)
  | device (name : String)
  | encoding (value : Value)
  | vocabularySize (n : Int)
  | maskWords (count need : Int)
  | maskType (name : String)
  | batch (rows steps : Nat)
  | logLevel (text : String)
  | pairLength (length : Nat)
  | schemaFile (path : String)
  | schemaJson (fault : Json.Fault)
  | nullByte

def ArgumentFault.message : ArgumentFault → String
  | .indent n => messageOf do return "indent must be non-negative, got: " ++ (← Text.writeInteger? n)
  | .node fault => fault.message
  | .integer fault => fault.message
  | .engine name =>
    "Unknown grammar engine: " ++ Text.quoted name ++ ". Use one of ['fsm', 'xgrammar']"
  | .device name =>
    "Unknown device " ++ Text.quoted name ++ ". Use one of ['cpu', 'cuda', 'mps']"
  | .encoding value => messageOf do return (← value.inspect?) ++ " is not a valid EncodingKind"
  | .vocabularySize n => messageOf do
    return "vocab_size must be positive, got: " ++ (← Text.writeInteger? n)
  | .maskWords count need =>
    "bitmask has " ++ toString count ++ " words, need " ++ toString need
  | .maskType name => "bitmask must be torch.int32, got: " ++ name
  | .batch rows steps =>
    "Batch of " ++ toString rows ++ " rows but only " ++ toString steps ++ " decoding steps"
  | .logLevel text => "Unknown level: " ++ Text.quoted text
  | .pairLength length =>
    "dictionary update sequence element #0 has length " ++ toString length ++ "; 2 is required"
  | .schemaFile path => "Schema file not found: " ++ path
  | .schemaJson fault => "Invalid JSON in schema file: " ++ fault.message
  | .nullByte => "embedded null byte"

/-! ## All failures -/

/-- Why an operation has no result. -/
inductive Failure where
  | setup (fault : SetupFault)
  | argument (fault : ArgumentFault)
  | json (fault : Json.Fault)
  | mismatch (fault : Mismatch)
  | noAttribute (kind name : String)
  | noKey (key : Value)
  | index (text : String)
  | missingFile (name directory : String)
  | missingEntry (text : String)
  | system (text : String)
  | closed (owner : String)
  | unavailable (device : String)
  | overflow (text : String)
  | memory
  /-- Half a surrogate pair, which is no character of a text. -/
  | surrogate (code : Nat)
  | tooDeep (place : String)
  | markup (fault : Display.MarkupFault)
  | runtime (text : String)
  | cancelled

def Failure.message : Failure → String
  | .setup fault => fault.message
  | .argument fault => fault.message
  | .json fault => fault.message
  | .mismatch fault => fault.message
  | .noAttribute kind name => "'" ++ kind ++ "' object has no attribute '" ++ name ++ "'"
  | .noKey key => key.inspect
  | .index text => text
  | .missingFile name directory => name ++ " not found in " ++ directory
  | .missingEntry text => text
  | .system text => text
  | .closed owner => owner ++ " is closed"
  | .unavailable device => device ++ " requested but not available"
  | .overflow text => text
  | .memory => ""
  | .surrogate _ => "surrogates not allowed"
  | .tooDeep place => "maximum recursion depth exceeded" ++ place
  | .markup fault => fault.message
  | .runtime text => text
  | .cancelled => ""

namespace Failure

/-- A fault of a schema. -/
def schema (fault : SchemaFault) : Failure := .setup (.schema fault)

/-- A fault of a vocabulary. -/
def vocabulary (fault : VocabularyFault) : Failure := .setup (.vocabulary fault)

/-- A value that is no integer: a text is refused for what it says, anything else for its kind. -/
def ofIntegerFault : Value.IntegerFault → Failure
  | .kind name => .mismatch (.integer (.kind name))
  | .infinity => .overflow Value.IntegerFault.infinity.message
  | fault => .argument (.integer fault)

/-- An integer with too many digits; how many they are is known of a text. -/
def digits (count : Option Nat) : Failure := .argument (.integer (.digits count))

/-- A text without a value, given what it means that the text is no JSON. -/
def ofJson (malformed : Json.Fault → Failure) : Json.Refusal → Failure
  | .malformed fault => malformed fault
  | .digits count => .digits (some count)
  | .surrogate code => .surrogate code

/-- A number that counts no places. -/
def tooWide : Failure := .overflow "cannot fit 'int' into an index-sized integer"

/-- A fault of a schema that shows a value, which has to have a written form. -/
def ofUnknownType (path : String) (value : Value) : Failure :=
  if value.isWritable then .schema (.unknownType path value) else .digits none

/-- A fault of a vocabulary that shows ids, which have to have a written form. -/
def ofStopOutside (ids : List Int) (size : Nat) : Failure :=
  if ids.all Text.isWritable then .vocabulary (.stopOutside ids size) else .digits none

end Failure

/-- What is written of a value, unless an integer in it has too many digits. -/
def Failure.written : Option String → Except Failure String
  | some s => .ok s
  | none => .error (.digits none)

end GuidedJson
