import GuidedJson.Text.Newline
import GuidedJson.Vocabulary.Declaration

/-! # Tokenizer files

The documents that declare the tokens of a model are its files `tokenizer.json`, and where they are
there `tokenizer_config.json` and `config.json`. A tokenizer in memory declares the same.
-/

namespace GuidedJson.Vocabulary

/-! ## Files -/

/-- Where the files of a model are. -/
inductive ModelPlace where
  /-- A directory, as it is named in messages. -/
  | directory (name : String)
  /-- A repository that the files are fetched from. -/
  | repository

def tokenizerFile : String := "tokenizer.json"

/-- What is said of a required file that is not there. -/
def ModelPlace.missing (name : String) : ModelPlace → Failure
  | .directory d => .missingFile name d
  | .repository => .missingEntry (name ++ " does not exist")

/-- The document of a file. -/
def readDocument (text : String) : Except Failure Value :=
  Json.readWithin Json.nestingLimit .json (Text.fileText text)

def readOptional (file? : String → Option String) (name : String) : Except Failure Value :=
  match file? name with
  | some text => readDocument text
  | none => .ok .null

/-- The declaration of a model's files, of which only `tokenizer.json` must be there. -/
def Declaration.ofFiles (place : ModelPlace) (file? : String → Option String) :
    Except Failure Declaration := do
  let tokenizer ← match file? tokenizerFile with
    | some text => readDocument text
    | none => .error (place.missing tokenizerFile)
  let config ← readOptional file? "tokenizer_config.json"
  let model ← readOptional file? "config.json"
  ofDocuments tokenizer config model

/-- The declaration of a tokenizer in memory, given its serialized form. -/
def Declaration.ofTokenizer (serialized : String) (eos size : Value) :
    Except Failure Declaration := do
  let tokenizer ← Json.readWithin Json.nestingLimit .json serialized
  let model := if size.isNull then .null else .object [("vocab_size", size)]
  ofDocuments tokenizer (.object [("eos_token", eos)]) model

end GuidedJson.Vocabulary
