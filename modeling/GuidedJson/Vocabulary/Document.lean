import GuidedJson.Json.Access
import GuidedJson.Vocabulary.Resolution

/-! # Vocabularies as documents

A vocabulary and a declaration are written as documents with fixed keys, and read from them.
-/

namespace GuidedJson.Vocabulary

/-- The vocabulary of a document with its tokens, the code of their encoding, and the stop and
special ids. -/
def ofDocument (v : Value) : Except Failure Vocabulary := do
  let encoding ← Encoding.ofCode (v.memberD "kind" (.int 0))
  Vocabulary.of ((v.member "tokens").asItems.map Value.asText).toArray encoding
    ((v.member "stop").asItems.map Value.asInt) ((v.member "special").asItems.map Value.asInt)

def intItems (ns : List Int) : Value := .array (ns.map Value.int)

def natItems (ns : List Nat) : Value := .array (ns.map fun n => Value.int (n : Nat))

/-- What a vocabulary is shown with: its table, and what follows from it. -/
def members (v : Vocabulary) : Except Failure (List (String × Value)) := do
  let fingerprint ← v.fingerprint?
  return [
    ("tokens", .array (v.tokens.toList.map Value.string)),
    ("kind", .int v.encoding.code),
    ("size", .int v.size),
    ("len", .int v.size),
    ("words", .int v.words),
    ("stop", natItems v.stop),
    ("special", intItems v.special),
    ("fingerprint", .string fingerprint)]

def document (v : Vocabulary) : Except Failure Value := Value.object <$> v.members

namespace Declaration

/-- A declaration with its base tokens in order and its added tokens. -/
def document (d : Declaration) : Value := .object [
  ("vocab", .array (d.base.map fun (t, i) => .array [t, i])),
  ("added", .array (d.added.map fun a => .array [a.id, a.content, a.special])),
  ("decoders", .array d.stages),
  ("eos", d.eos),
  ("vocab_size", d.size)]

/-- The base token of an item; a token that is repeated keeps its place. -/
def addBase (found : List (Value × Value)) (item : Value) : List (Value × Value) :=
  match item with
  | .array [t, i] => setId t i found
  | _ => found

def addedOf (item : Value) : DeclaredToken :=
  let part (i : Nat) : Value := item.asItems.getD i .null
  ⟨part 0, part 1, part 2⟩

/-- The declaration of a document. -/
def ofDocument (v : Value) : Declaration where
  base := (v.member "vocab").asItems.foldl addBase []
  added := (v.member "added").asItems.map addedOf
  stages := (v.member "decoders").asItems
  eos := v.member "eos"
  size := v.member "vocab_size"

end Declaration

end GuidedJson.Vocabulary
